/-
Chunked bodies as they are written, and what `parse_body` makes of them.  A
chunk is read by its size, so its bytes may be any, and the line that follows
them is blank.
-/

import DpktNg.Http.ParseErrors
import DpktNg.Python.Lines

namespace DpktNg.Http

open Library

/-- Digits of base 16, in either case. -/
def IsHex (digits : Bytes) : Prop :=
  digits ≠ [] ∧ ∀ c ∈ decodeLatin1 digits, isDigitOf 16 c = true

def hexValue (digits : Bytes) : Nat := digitsValue 16 (decodeLatin1 digits)

/-- Nothing, or a space or a tab and a text in the same line. -/
def IsExtension (extension : Bytes) : Prop :=
  ∀ sep text, extension = sep :: text →
    (sep = 0x20 ∨ sep = 0x09) ∧ 0x0a ∉ text

/-- A chunk as it is written.  No byte string has more than `sys.maxsize`
bytes. -/
structure Chunk where
  digits : Bytes
  extension : Bytes
  data : Bytes
  isHex : IsHex digits
  isExtension : IsExtension extension
  notEmpty : data ≠ []
  size : hexValue digits = data.length
  sized : data.length < 2 ^ 63

namespace Chunk

def sizeLine (chunk : Chunk) : Bytes :=
  chunk.digits ++ chunk.extension ++ crlf

def bytes (chunk : Chunk) : Bytes :=
  chunk.sizeLine ++ chunk.data ++ crlf

end Chunk

example : Chunk where
  digits := [0x30, 0x35]
  extension := [0x20, 0x78]
  data := [0x68, 0x65, 0x6c, 0x6c, 0x6f]
  isHex := ⟨by decide, List.all_eq_true.mp (by decide)⟩
  isExtension := by
    rintro sep text ⟨⟩
    decide
  notEmpty := by decide
  size := by decide
  sized := by decide

def lastChunk : Bytes := 0x30 :: (crlf ++ crlf)

theorem hexDigit_solid : ∀ byte : UInt8,
    isDigitOf 16 (Char.ofNat byte.toNat) = true → isSpaceByte byte = false :=
  forall_byte (by decide +kernel)

theorem isSpaceByte_of_hex {digits : Bytes} (isHex : IsHex digits)
    {byte : UInt8} (member : byte ∈ digits) : isSpaceByte byte = false :=
  hexDigit_solid byte (isHex.2 (Char.ofNat byte.toNat)
    (List.mem_map.mpr ⟨byte, member, rfl⟩))

theorem IsHex.isWord {digits : Bytes} (isHex : IsHex digits) :
    IsWord isSpaceByte digits :=
  ⟨isHex.1, fun _byte member => isSpaceByte_of_hex isHex member⟩

theorem parseInt_hex {digits : Bytes} (isHex : IsHex digits) :
    parseInt 16 (decodeLatin1 digits) = some (hexValue digits : Int) :=
  parseInt_digits isHex.2 fun none => isHex.1 (List.map_eq_nil_iff.mp none)

/-- A line that begins with a size, and white space behind it. -/
theorem chunkSize_of_line {digits line : Bytes} (isHex : IsHex digits)
    {blank : UInt8} (space : isSpaceByte blank = true) (f : Bytes)
    (here : (readline f).1 = digits ++ blank :: line) :
    chunkSize f = .ok (hexValue digits : Int) := by
  have word : chunkSizeWord f = some digits := by
    unfold chunkSizeWord
    rw [here, wordsUpTo_word isHex.isWord space]
    rfl
  unfold chunkSize
  rw [word]
  dsimp only
  rw [parseInt_hex isHex]

theorem readline_crlf {line : Bytes} (single : 0x0a ∉ line) (behind : Bytes) :
    readline (line ++ (crlf ++ behind)) = (line ++ crlf, behind) := by
  have free : 0x0a ∉ line ++ [0x0d] := by
    rw [List.mem_append, not_or]
    exact ⟨single, by decide⟩
  have line' : line ++ (crlf ++ behind) = (line ++ [0x0d]) ++ 0x0a :: behind :=
    (List.append_assoc line [0x0d] (0x0a :: behind)).symm
  rw [line', readline_lineFeed free, List.append_assoc]
  rfl

theorem readline_blank (behind : Bytes) :
    readline (crlf ++ behind) = (crlf, behind) :=
  readline_crlf List.not_mem_nil behind

theorem Chunk.sizeLine_blank (chunk : Chunk) :
    ∃ blank line, isSpaceByte blank = true ∧
      chunk.sizeLine = chunk.digits ++ blank :: line := by
  unfold Chunk.sizeLine
  cases whole : chunk.extension with
  | nil =>
      refine ⟨0x0d, [0x0a], by decide, ?_⟩
      rw [List.append_nil]
      rfl
  | cons sep text =>
      refine ⟨sep, text ++ crlf, ?_, ?_⟩
      · rcases (chunk.isExtension sep text whole).1 with space | tab
        · rw [space]
          decide
        · rw [tab]
          decide
      · rw [List.append_assoc]
        rfl

theorem Chunk.readline_sizeLine (chunk : Chunk) (behind : Bytes) :
    readline (chunk.sizeLine ++ behind) = (chunk.sizeLine, behind) := by
  have hexFree : 0x0a ∉ chunk.digits := by
    intro member
    have solid := isSpaceByte_of_hex chunk.isHex member
    revert solid
    decide
  have extensionFree : 0x0a ∉ chunk.extension := by
    cases whole : chunk.extension with
    | nil => exact List.not_mem_nil
    | cons sep text =>
        obtain ⟨separator, free⟩ := chunk.isExtension sep text whole
        rw [List.mem_cons, not_or]
        refine ⟨?_, free⟩
        intro same
        rw [← same] at separator
        revert separator
        decide
  unfold Chunk.sizeLine
  rw [List.append_assoc, readline_crlf]
  rw [List.mem_append, not_or]
  exact ⟨hexFree, extensionFree⟩

theorem Chunk.chunkSize (chunk : Chunk) (behind : Bytes) :
    chunkSize (chunk.sizeLine ++ behind) = .ok (chunk.data.length : Int) := by
  obtain ⟨blank, line, space, same⟩ := chunk.sizeLine_blank
  have here : (readline (chunk.sizeLine ++ behind)).1 =
      chunk.digits ++ blank :: line := by
    rw [chunk.readline_sizeLine]
    exact same
  rw [chunkSize_of_line chunk.isHex space _ here, chunk.size]

theorem parseChunks_chunk (chunk : Chunk) (behind : Bytes) :
    parseChunks (chunk.bytes ++ behind) =
      (parseChunks behind >>= fun rest =>
        .ok (chunk.data ++ rest.1, rest.2)) := by
  have parts : chunk.bytes ++ behind =
      chunk.sizeLine ++ (chunk.data ++ (crlf ++ behind)) := by
    unfold Chunk.bytes
    rw [List.append_assoc, List.append_assoc]
  have counted : readCount (readline (chunk.bytes ++ behind)).2
      chunk.data.length = .ok (chunk.data, crlf ++ behind) := by
    have small := chunk.sized
    rw [parts, chunk.readline_sizeLine,
      readCount_sized ⟨by omega, by exact_mod_cast small⟩,
      readFile_front rfl]
  have size : DpktNg.Http.chunkSize (chunk.bytes ++ behind) =
      .ok (chunk.data.length : Int) := by
    rw [parts]
    exact chunk.chunkSize _
  have positive := List.length_pos_iff.mpr chunk.notEmpty
  rw [parseChunks_turn size counted, readline_blank, if_pos]
  exact ⟨rfl, by omega, rfl⟩

theorem parseChunks_last (behind : Bytes) :
    parseChunks (lastChunk ++ behind) = .ok ([], behind) := by
  have line : readline (lastChunk ++ behind) =
      ([0x30] ++ crlf, crlf ++ behind) :=
    @readline_crlf [0x30] (by decide) (crlf ++ behind)
  have isHex : IsHex [0x30] := by
    refine ⟨List.cons_ne_nil _ _, ?_⟩
    intro c member
    rw [List.mem_singleton.mp member]
    decide
  have zero : chunkSize (lastChunk ++ behind) = .ok 0 :=
    chunkSize_of_line isHex (by decide : isSpaceByte 0x0d = true) _
      (congrArg Prod.fst line)
  have counted : readCount (readline (lastChunk ++ behind)).2 0 =
      .ok ([], crlf ++ behind) := by
    rw [line]
    rfl
  rw [parseChunks_turn zero counted, readline_blank, if_neg]
  · rfl
  · intro whole
    exact whole.2.1 rfl

theorem parseChunks_chunks (chunks : List Chunk) (behind : Bytes) :
    parseChunks (chunks.flatMap Chunk.bytes ++ (lastChunk ++ behind)) =
      .ok (chunks.flatMap Chunk.data, behind) := by
  induction chunks with
  | nil => exact parseChunks_last behind
  | cons chunk rest ih =>
      rw [List.flatMap_cons, List.append_assoc, parseChunks_chunk, ih, ok_bind,
        List.flatMap_cons]

def chunkedHeader : Headers :=
  Dict.empty.set transferEncoding (.one "chunked".toList)

theorem parseBody_chunked (chunks : List Chunk) (behind : Bytes) :
    parseBody (chunks.flatMap Chunk.bytes ++ (lastChunk ++ behind))
        chunkedHeader =
      .ok (chunks.flatMap Chunk.data, behind) := by
  have chunked : isChunked chunkedHeader = .ok true := by decide
  unfold parseBody
  rw [chunked, ok_bind, if_pos rfl]
  exact parseChunks_chunks chunks behind

end DpktNg.Http
