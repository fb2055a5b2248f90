/-
Lists of attribute-value pairs as the protocol lays them out, each padded to a
multiple of four bytes, and what a Diameter message finds in them.
-/

import DpktNg.Diameter.Message

namespace DpktNg.Diameter

open Library

/-- What a pair says, without its length. -/
structure Pair where
  code : Nat
  flags : Nat
  vendor : Option Nat
  value : Bytes
deriving DecidableEq, Repr

/-- What a pair says that was read. -/
def AVP.pair (self : AVP) : Pair :=
  { code := self.code
    flags := self.flags
    vendor := self.vendor
    value := self.data }

namespace Pair

def vendorBytes (pair : Pair) : Bytes :=
  match pair.vendor with
  | none => []
  | some vendor => beBytes 4 vendor

/-- The AVP Length, without the padding. -/
def length (pair : Pair) : Nat :=
  8 + pair.vendorBytes.length + pair.value.length

/-- The values fit their fields, and there is a vendor id where the flag says
so. -/
structure Fits (pair : Pair) : Prop where
  code : pair.code < 256 ^ 4
  flags : pair.flags < 256 ^ 1
  vendor : pair.vendor.isSome = AVP.vendorFlag pair.flags
  vendorId : ∀ vendor ∈ pair.vendor, vendor < 256 ^ 4
  length : pair.length < 256 ^ 3

/-- The pair behind its header, without the padding. -/
def content (pair : Pair) : Bytes :=
  pair.vendorBytes ++ pair.value

def hdr (pair : Pair) : AVPHdr :=
  { code := pair.code
    flags := pair.flags
    len := bytes24 pair.length }

def padding (pair : Pair) : Nat := (4 - pair.length % 4) % 4

/-- The pair as RFC 6733 lays it out. -/
def encoded (pair : Pair) : Bytes :=
  AVPHdr.format.bytes .big pair.hdr ++ pair.content ++
    zeros pair.padding

/-- The pair that is read where the value is aligned. -/
def avp (pair : Pair) : AVP :=
  { code := pair.code
    flags := pair.flags
    len := .number pair.length
    vendor := pair.vendor
    data := pair.value }

theorem avp_pair (pair : Pair) :
    pair.avp.pair = pair := rfl

variable {pair : Pair}

theorem Fits.hdr (fits : pair.Fits) :
    AVPHdr.format.Fits pair.hdr :=
  ⟨fits.code, fits.flags, rfl, trivial⟩

theorem Fits.vendorBytes_length (fits : pair.Fits) :
    pair.vendorBytes.length =
      if AVP.vendorFlag pair.flags then 4 else 0 := by
  have present := fits.vendor
  unfold vendorBytes
  cases isVendor : pair.vendor with
  | none =>
      rw [isVendor, Option.isSome_none] at present
      rw [← present]
      rfl
  | some vendor =>
      rw [isVendor, Option.isSome_some] at present
      rw [← present, beBytes_length]
      rfl

theorem size_eq (fits : pair.Fits) {avp : AVP}
    (same : avp.pair = pair) : avp.size = pair.length := by
  rw [← same] at fits ⊢
  have vendored := fits.vendorBytes_length
  have hdrSize : AVPHdr.format.size = 8 := rfl
  change _ = (if AVP.vendorFlag avp.flags then 4 else 0) at vendored
  unfold AVP.size length
  rw [vendored, hdrSize]
  change 8 + avp.data.length + _ = 8 + _ + avp.data.length
  omega

theorem encoded_length (fits : pair.Fits) :
    pair.encoded.length = pair.length + pair.padding := by
  have hdrLength := @StructFormat.bytes_length _ AVPHdr.format .big _ fits.hdr
  have hdrSize : AVPHdr.format.size = 8 := rfl
  unfold encoded content
  rw [List.length_append, List.length_append, List.length_append, hdrLength,
    hdrSize, zeros_length]
  unfold length
  omega

theorem parse_encoded (fits : pair.Fits) (rest : Bytes) :
    AVP.parse (AVPHdr.format.bytes .big pair.hdr ++
      (pair.content ++ rest)) = .ok pair.avp := by
  apply packetInit_eq_ok.mpr
  have hdrSize : AVPHdr.format.size = 8 := rfl
  have len : int24 pair.hdr.len = pair.length :=
    int24_bytes24 fits.length
  have behind : cutTo (pair.content ++ rest)
      ((pair.length : Int) - AVPHdr.format.size) = pair.content := by
    have contentLength : pair.content.length = pair.length - 8 := by
      unfold content length
      rw [List.length_append]
      omega
    have atLeast : 8 ≤ pair.length := by
      unfold length
      omega
    unfold cutTo
    rw [if_pos (by rw [hdrSize]; omega)]
    refine List.take_left' ?_
    rw [hdrSize]
    omega
  have present := fits.vendor
  unfold AVP.unpack
  rw [@StructFormat.unpackHdr_bytes _ _ .big _ fits.hdr, ok_bind]
  dsimp only
  rw [len, behind]
  change (if AVP.vendorFlag pair.flags then _ else _) = _
  unfold content vendorBytes avp
  cases isVendor : pair.vendor with
  | none =>
      rw [isVendor, Option.isSome_none] at present
      rw [if_neg (by rw [← present]; decide)]
      rfl
  | some vendor =>
      rw [isVendor, Option.isSome_some] at present
      have idLength : (beBytes 4 vendor).length = 4 := beBytes_length 4 vendor
      rw [if_pos present.symm]
      dsimp only
      rw [List.append_assoc, List.take_left' idLength,
        unpackBe_beBytes (fits.vendorId vendor isVendor), ok_bind,
        List.drop_left' idLength]
      rfl

theorem padding_eq_zero (fits : pair.Fits) :
    pair.padding = 0 ↔ 4 ∣ pair.value.length := by
  have vendored := fits.vendorBytes_length
  unfold padding length
  split at vendored
  · omega
  · omega

end Pair

def encodedAvps (pairs : List Pair) : Bytes :=
  (pairs.map Pair.encoded).flatten

/-- A message with these pairs: its length is that of all of it. -/
def encodedMessage (hdr : DiameterHdr) (pairs : List Pair) : Bytes :=
  DiameterHdr.format.bytes .big
    { hdr with len := bytes24 (20 + (encodedAvps pairs).length) } ++
    encodedAvps pairs

variable {pairs : List Pair}

theorem parseAll_encodedAvps (fits : ∀ pair ∈ pairs, pair.Fits)
    (aligned : ∀ pair ∈ pairs, 4 ∣ pair.value.length) :
    parseAll AVP.parse AVP.size AVP.size_pos (encodedAvps pairs) =
      .ok (pairs.map Pair.avp) := by
  apply parseAll_flatten
  rw [List.forall₂_map_left_iff, List.forall₂_map_right_iff,
    List.forall₂_same]
  intro pair member
  have here := fits pair member
  have unpadded := (Pair.padding_eq_zero here).mpr
    (aligned pair member)
  refine ⟨fun rest => ?_, ?_⟩
  · unfold Pair.encoded
    rw [unpadded, zeros_zero, List.append_nil, List.append_assoc]
    exact Pair.parse_encoded here rest
  · rw [Pair.size_eq here (Pair.avp_pair pair),
      Pair.encoded_length here, unpadded, Nat.add_zero]

theorem aligned_of_parseAll (fits : ∀ pair ∈ pairs, pair.Fits)
    {avps : List AVP} (same : avps.map AVP.pair = pairs)
    (parsed : parseAll AVP.parse AVP.size AVP.size_pos
      (encodedAvps pairs) = .ok avps) :
    ∀ pair ∈ pairs, 4 ∣ pair.value.length := by
  have total := parseAll_sizes
    (fun _data _avp parsedAvp => (AVP.parse_unpacked parsedAvp).2) parsed
  have sizes : (avps.map AVP.size).sum =
      (pairs.map Pair.length).sum := by
    rw [← same, List.map_map]
    refine congrArg List.sum (List.map_congr_left fun avp member => ?_)
    exact Pair.size_eq
      (fits _ (same ▸ List.mem_map_of_mem member)) rfl
  have encodedLength : (encodedAvps pairs).length =
      (pairs.map Pair.length).sum +
        (pairs.map Pair.padding).sum := by
    clear same parsed total sizes
    unfold encodedAvps
    induction pairs with
    | nil => rfl
    | cons pair rest ih =>
        rw [List.forall_mem_cons] at fits
        simp only [List.map_cons, List.flatten_cons, List.length_append,
          List.sum_cons, Pair.encoded_length fits.1, ih fits.2]
        omega
  have unpadded : (pairs.map Pair.padding).sum = 0 := by omega
  intro pair member
  rw [← Pair.padding_eq_zero (fits pair member)]
  exact List.sum_eq_zero_iff.mp unpadded _ (List.mem_map_of_mem member)

variable {hdr : DiameterHdr}

/-- The message that is read, with the pairs found behind its header. -/
def messageRead (hdr : DiameterHdr) (pairs : List Pair) (avps : List AVP) :
    Diameter :=
  { v := hdr.v
    len := .number (20 + (encodedAvps pairs).length)
    flags := hdr.flags
    cmd := .number (int24 hdr.cmd)
    appId := hdr.appId
    hopId := hdr.hopId
    endId := hdr.endId
    avps }

theorem parse_encodedMessage {message : Diameter}
    (hdrFits : DiameterHdr.format.Fits hdr)
    (short : 20 + (encodedAvps pairs).length < 256 ^ 3) :
    parse (encodedMessage hdr pairs) = .ok message ↔
      ∃ avps, parseAll AVP.parse AVP.size AVP.size_pos (encodedAvps pairs) =
          .ok avps ∧ .ok (messageRead hdr pairs avps) =
            (.ok message : Except PyError Diameter) := by
  have fits : DiameterHdr.format.Fits
      { hdr with len := bytes24 (20 + (encodedAvps pairs).length) } :=
    ⟨hdrFits.1, rfl, hdrFits.2.2⟩
  have hdrSize : DiameterHdr.format.size = 20 := rfl
  have whole : cutTo (encodedAvps pairs)
      (((20 + (encodedAvps pairs).length : Nat) : Int) -
        DiameterHdr.format.size) = encodedAvps pairs := by
    unfold cutTo
    rw [if_pos (by rw [hdrSize]; omega)]
    refine List.take_of_length_le ?_
    rw [hdrSize]
    omega
  unfold parse
  rw [packetInit_eq_ok]
  unfold unpack encodedMessage
  rw [@StructFormat.unpackHdr_bytes _ _ .big _ fits, ok_bind]
  dsimp only
  rw [int24_bytes24 short, whole]
  exact bind_eq_ok

/-- The pairs are read as they are exactly where none needs padding. -/
theorem parse_avps_iff (hdr : DiameterHdr) (pairs : List Pair)
    (hdrFits : DiameterHdr.format.Fits hdr)
    (fits : ∀ pair ∈ pairs, pair.Fits)
    (short : 20 + (encodedAvps pairs).length < 256 ^ 3) :
    (∃ message, parse (encodedMessage hdr pairs) = .ok message ∧
        message.avps.map AVP.pair = pairs) ↔
      ∀ pair ∈ pairs, 4 ∣ pair.value.length := by
  constructor
  · rintro ⟨message, parsed, same⟩
    obtain ⟨avps, parsedAvps, isMessage⟩ :=
      (parse_encodedMessage hdrFits short).mp parsed
    cases isMessage
    exact aligned_of_parseAll fits same parsedAvps
  · intro aligned
    have parsedAvps := parseAll_encodedAvps fits aligned
    refine ⟨_, (parse_encodedMessage hdrFits short).mpr
      ⟨_, parsedAvps, rfl⟩, ?_⟩
    change (pairs.map Pair.avp).map AVP.pair = pairs
    rw [List.map_map]
    exact (List.map_congr_left fun pair _ => Pair.avp_pair pair).trans
      (List.map_id pairs)

def requestHdr : DiameterHdr :=
  { v := 1
    len := [0, 0, 0]
    flags := 0x80
    cmd := [0x00, 0x01, 0x18]
    appId := 0
    hopId := 0x41c8
    endId := 12 }

def hostPair : Pair :=
  { code := 264
    flags := 0xc0
    vendor := some 0xdeadbeef
    value := [0x68, 0x30, 0x30, 0x32] }

theorem hostPair_fits : hostPair.Fits :=
  ⟨by decide, by decide, by decide, by decide, by decide⟩

theorem hostPair_read :
    ∃ message, parse (encodedMessage requestHdr [hostPair]) = .ok message ∧
      message.avps.map AVP.pair = [hostPair] :=
  (parse_avps_iff requestHdr [hostPair] (by decide)
    (List.forall_mem_singleton.mpr hostPair_fits) (by decide)).mpr
    (List.forall_mem_singleton.mpr (by decide))

def shortPair : Pair := { hostPair with value := [0x68, 0x30, 0x30] }

theorem shortPair_fits : shortPair.Fits :=
  ⟨by decide, by decide, by decide, by decide, by decide⟩

/-- The byte of padding is taken for another pair. -/
theorem parse_shortPair :
    parse (encodedMessage requestHdr [shortPair]) = .error (.tooShort 1 8) := by
  decide +kernel

theorem shortPair_not_read :
    DiameterHdr.format.Fits requestHdr ∧ shortPair.Fits ∧
      ¬ ∃ message, parse (encodedMessage requestHdr [shortPair]) =
          .ok message ∧ message.avps.map AVP.pair = [shortPair] := by
  refine ⟨by decide, shortPair_fits, ?_⟩
  rintro ⟨message, parsed, _same⟩
  rw [parse_shortPair] at parsed
  cases parsed

end DpktNg.Diameter
