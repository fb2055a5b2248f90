/-
Packets of dpkt/quic.py.  `QUIC.__new__` parses the header itself, so nothing
translates the errors of the header parsers.
-/

import DpktNg.Quic.Frames

namespace DpktNg.Quic

open Library

def longInitial : Nat := 0

def longRetry : Nat := 3

/-- What follows the connection ids of a long header. -/
inductive LongBody where
  | retry (retryToken retryIntegrityTag : Bytes)
  | numbered (token : Option (Nat × Bytes)) (length : Nat)
      (pktNumber data : Bytes) (hdrLen : Nat) (frames : List Frame)
deriving DecidableEq, Repr

structure LongHeader where
  flags : Nat
  longPktType : Nat
  version : Nat
  dcidLen : Nat
  dcid : Bytes
  scidLen : Nat
  scid : Bytes
  body : LongBody
deriving DecidableEq, Repr

structure ShortHeader where
  flags : Nat
  dcid : Bytes
  pktNumber : Bytes
  frames : List Frame
  data : Bytes
deriving DecidableEq, Repr

inductive Packet where
  | long (header : LongHeader)
  | short (header : ShortHeader)
deriving DecidableEq, Repr

/-- The token of an Initial packet with its length, and the offset behind. -/
def unpackToken (longPktType : Nat) (buf : Bytes) (off : Nat) :
    Except PyError (Option (Nat × Bytes) × Nat) :=
  if longPktType = longInitial then do
    let (tokenLen, n) ← decodeVarint buf off
    let off := off + n
    .ok (some (tokenLen, cut buf off (off + tokenLen)), off + tokenLen)
  else .ok (none, off)

/-- `QUICLongHeader.unpack` from the end of the connection ids on. -/
def unpackLongBody (flags longPktType : Nat) (buf : Bytes) (off : Nat) :
    Except PyError LongBody :=
  if longPktType = longRetry then
    .ok (.retry (cut buf off (buf.length - 16)) (buf.drop (buf.length - 16)))
  else do
    let (token, off) ← unpackToken longPktType buf off
    let (length, n) ← decodeVarint buf off
    let off := off + n
    let remaining := cut buf off (off + length)
    let nBytes := (flags &&& 3) + 1
    let payload := remaining.drop nBytes
    let frames ← parseFrames payload
    .ok (.numbered token length (remaining.take nBytes) payload
      (off + length + nBytes) frames)

def unpackLongHeader (buf : Bytes) : Except PyError LongHeader := do
  let flags ← byteAt buf 0
  let longPktType := (flags >>> 4) &&& 3
  let version ← unpackBe 4 (cut buf 1 5)
  let dcidLen ← byteAt buf 5
  let scidLen ← byteAt buf (6 + dcidLen)
  let off := 7 + dcidLen
  let body ← unpackLongBody flags longPktType buf (off + scidLen)
  .ok
    { flags
      longPktType
      version
      dcidLen
      dcid := cut buf 6 (6 + dcidLen)
      scidLen
      scid := cut buf off (off + scidLen)
      body }

def unpackShortHeader (dcidLen : Nat) (buf : Bytes) :
    Except PyError ShortHeader := do
  let flags ← byteAt buf 0
  let pnOffset := 1 + dcidLen
  let pnLen := (flags &&& 3) + 1
  let payloadOffset := pnOffset + pnLen
  let frames ← parseFrames (buf.drop payloadOffset)
  .ok
    { flags
      dcid := cut buf 1 (1 + dcidLen)
      pktNumber := cut buf pnOffset payloadOffset
      frames
      data := [] }

/-- `QUIC(buf, dcid_len=dcidLen)`.  An empty buffer goes to `Packet.__init__`
of a class without fields. -/
def quic (buf : Bytes) (dcidLen : Nat) : Except PyError Packet :=
  match buf with
  | [] => .error .attributeError
  | first :: _ =>
      if first.toNat &&& 0x80 ≠ 0 then do
        .ok (.long (← unpackLongHeader buf))
      else do
        .ok (.short (← unpackShortHeader dcidLen buf))

theorem decodeWide_library (width mask : Nat) (buf : Bytes) (offset : Nat) :
    RaisesOnly PyError.IsUnpackError (decodeWide width mask buf offset) := by
  unfold decodeWide
  split
  · exact raisesOnly_error.mpr trivial
  · rename_i long
    have whole : (cut buf offset (offset + width)).length = width := by
      unfold cut
      rw [List.length_take, List.length_drop]
      omega
    unfold unpackBe
    rw [if_pos whole, ok_bind]
    exact raisesOnly_ok _

theorem decodeVarint_library (buf : Bytes) (offset : Nat) :
    RaisesOnly PyError.IsUnpackError (decodeVarint buf offset) := by
  unfold decodeVarint
  split
  · exact raisesOnly_error.mpr trivial
  · dsimp only
    split
    · exact raisesOnly_ok _
    · split
      · exact decodeWide_library 2 _ buf offset
      · split
        · exact decodeWide_library 4 _ buf offset
        · exact decodeWide_library 8 _ buf offset

theorem unpackToken_library (longPktType : Nat) (buf : Bytes) (off : Nat) :
    RaisesOnly PyError.IsUnpackError (unpackToken longPktType buf off) := by
  unfold unpackToken
  split
  · apply (decodeVarint_library buf off).bind
    intro tokenLen _decoded
    exact raisesOnly_ok _
  · exact raisesOnly_ok _

theorem unpackLongBody_library (flags longPktType : Nat) (buf : Bytes)
    (off : Nat) :
    RaisesOnly PyError.IsUnpackError
      (unpackLongBody flags longPktType buf off) := by
  unfold unpackLongBody
  split
  · exact raisesOnly_ok _
  · apply (unpackToken_library longPktType buf off).bind
    intro token _read
    apply (decodeVarint_library buf token.2).bind
    intro length _decoded
    have parsed := parseFrames_succeeds
      ((cut buf (token.2 + length.2) (token.2 + length.2 + length.1)).drop
        ((flags &&& 3) + 1))
    cases parsed with
    | intro frames parsed =>
        dsimp only
        rw [parsed]
        exact raisesOnly_ok _

theorem unpackShortHeader_succeeds (dcidLen : Nat) (first : UInt8)
    (rest : Bytes) :
    ∃ header, unpackShortHeader dcidLen (first :: rest) = .ok header := by
  have parsed := parseFrames_succeeds
    ((first :: rest).drop (1 + dcidLen + ((first.toNat &&& 3) + 1)))
  cases parsed with
  | intro frames parsed =>
      unfold unpackShortHeader
      have present : byteAt (first :: rest) 0 = .ok first.toNat := rfl
      rw [present, ok_bind]
      dsimp only
      rw [parsed]
      exact ⟨_, rfl⟩

/-- A long header has its version, both lengths of connection ids and the
first of the connection ids. -/
def LongHeaderFits (buf : Bytes) : Prop :=
  ∃ dcidLen, buf[5]? = some dcidLen ∧ 7 + dcidLen.toNat ≤ buf.length

theorem unpackLongHeader_library_iff {buf : Bytes} (nonempty : buf ≠ []) :
    RaisesOnly PyError.IsUnpackError (unpackLongHeader buf) ↔
      LongHeaderFits buf := by
  have flags := byteAt_inside (List.length_pos_of_ne_nil nonempty)
  unfold unpackLongHeader
  rw [flags, ok_bind]
  by_cases short : buf.length < 5
  · have truncated : unpackBe 4 (cut buf 1 5) = .error .structError := by
      unfold unpackBe cut
      rw [if_neg]
      rw [List.length_take, List.length_drop]
      omega
    rw [truncated]
    constructor
    · intro library
      exact False.elim (library _ rfl)
    · intro fits
      obtain ⟨dcidLen, _present, long⟩ := fits
      omega
  · have version : unpackBe 4 (cut buf 1 5) = .ok (beNat (cut buf 1 5)) := by
      unfold unpackBe cut
      rw [if_pos]
      rw [List.length_take, List.length_drop]
      omega
    rw [version, ok_bind]
    by_cases five : buf.length ≤ 5
    · rw [byteAt_outside five]
      constructor
      · intro library
        exact False.elim (library _ rfl)
      · intro fits
        obtain ⟨dcidLen, _present, long⟩ := fits
        omega
    · have inside : 5 < buf.length := by omega
      rw [byteAt_inside inside, ok_bind]
      by_cases cutOff : buf.length ≤ 6 + buf[5].toNat
      · rw [byteAt_outside cutOff]
        constructor
        · intro library
          exact False.elim (library _ rfl)
        · intro fits
          obtain ⟨dcidLen, present, long⟩ := fits
          rw [List.getElem?_eq_getElem inside, Option.some.injEq] at present
          rw [← present] at long
          omega
      · have behind : 6 + buf[5].toNat < buf.length := by omega
        rw [byteAt_inside behind, ok_bind]
        constructor
        · intro _library
          exact ⟨buf[5], List.getElem?_eq_getElem inside, by omega⟩
        · intro _fits
          apply (unpackLongBody_library _ _ _ _).bind
          intro body _read
          exact raisesOnly_ok _

/-- A short header is always parsed.  A long one raises `struct.error` or
`IndexError` when it is cut off before the end of its first connection id. -/
theorem quic_raisesOnly_iff (buf : Bytes) (nonempty : buf ≠ [])
    (dcidLen : Nat) :
    RaisesOnly PyError.IsUnpackError (quic buf dcidLen) ↔
      (∀ first, buf.head? = some first → first.toNat &&& 0x80 ≠ 0 →
        LongHeaderFits buf) := by
  cases buf with
  | nil => exact absurd rfl nonempty
  | cons first rest =>
      have header := unpackLongHeader_library_iff nonempty
      by_cases long : first.toNat &&& 0x80 ≠ 0
      · have parser : quic (first :: rest) dcidLen =
            unpackLongHeader (first :: rest) >>= fun value =>
              .ok (.long value) := if_pos long
        rw [parser]
        constructor
        · intro library _first _head _long
          apply header.mp
          intro problem raised
          apply library problem
          rw [raised]
          rfl
        · intro fits
          apply (header.mpr (fits first rfl long)).bind
          intro value _parsed
          exact raisesOnly_ok _
      · have parser : quic (first :: rest) dcidLen =
            unpackShortHeader dcidLen (first :: rest) >>= fun value =>
              .ok (.short value) := if_neg long
        constructor
        · intro _library other head otherLong
          rw [List.head?_cons, Option.some.injEq] at head
          rw [← head] at otherLong
          exact absurd otherLong long
        · intro _fits
          have parsed := unpackShortHeader_succeeds dcidLen first rest
          cases parsed with
          | intro value parsed =>
              rw [parser, parsed]
              exact raisesOnly_ok _

/-- The header of a Retry packet with an empty connection id. -/
theorem quic_retry_raisesOnly :
    RaisesOnly PyError.IsUnpackError
      (quic [0xf0, 0xff, 0, 0, 0x1d, 0, 0] 0) := by
  apply (quic_raisesOnly_iff [0xf0, 0xff, 0, 0, 0x1d, 0, 0] (by decide)
    0).mpr
  intro _first _head _long
  exact ⟨0, rfl, by decide⟩

theorem quic_truncated_version :
    ¬∀ (buf : Bytes) (dcidLen : Nat), buf ≠ [] →
      RaisesOnly PyError.IsUnpackError (quic buf dcidLen) := by
  intro always
  have library := always [0xc0] 0 (by decide)
  exact library .structError (by decide +kernel)

end DpktNg.Quic
