/-
Radiotap headers as they are encoded: present words, and behind them the fields
that the first one announces, each at its natural alignment.  What the fields
are is stated here once more, as the list of defined fields has them that
dpkt/radiotap.py refers to.  `Radiotap` decodes them all but for the transmit
power, a signed number there, which it reads as an unsigned one.
-/

import DpktNg.Ieee80211.Radiotap
import DpktNg.Library.Alignment

namespace DpktNg.Ieee80211

open Library

/-! ### Values and their bytes -/

namespace Code

variable {code : Code} {value : Int}

def InRange (code : Code) (value : Int) : Prop :=
  if code.signed then
    -(256 ^ code.width / 2 : Nat) ≤ value ∧
      value < (256 ^ code.width / 2 : Nat)
  else 0 ≤ value ∧ value < (256 ^ code.width : Nat)

instance (code : Code) (value : Int) : Decidable (code.InRange value) :=
  inferInstanceAs (Decidable (if code.signed then
    -(256 ^ code.width / 2 : Nat) ≤ value ∧
      value < (256 ^ code.width / 2 : Nat)
  else 0 ≤ value ∧ value < (256 ^ code.width : Nat)))

/-- `struct.pack` behind `'<'` of a value in range. -/
def bytes (code : Code) (value : Int) : Bytes :=
  ByteOrder.little.arrange
    (beBytes code.width (value % (256 ^ code.width : Nat)).toNat)

theorem bytes_length : (code.bytes value).length = code.width := by
  unfold bytes
  rw [ByteOrder.arrange_length, beBytes_length]

theorem read_bytes (inRange : code.InRange value) :
    code.read (code.bytes value) = value := by
  have positive : (0 : Int) < (256 ^ code.width : Nat) := by
    exact_mod_cast Nat.pow_pos (Nat.succ_pos 255)
  have fits : (value % (256 ^ code.width : Nat)).toNat < 256 ^ code.width := by
    have below := Int.emod_lt_of_pos value positive
    omega
  have nat : ByteOrder.little.nat (code.bytes value) =
      (value % (256 ^ code.width : Nat)).toNat := by
    unfold bytes
    rw [ByteOrder.nat_arrange, beNat_beBytes fits]
  unfold InRange at inRange
  unfold read
  rw [nat]
  split at inRange
  · rename_i signed
    rw [if_pos signed]
    exact toSigned_emod inRange.1 inRange.2
  · rename_i unsigned
    rw [if_neg unsigned, Int.emod_eq_of_lt inRange.1 inRange.2]
    exact Int.toNat_of_nonneg inRange.1

theorem read_unsigned_iff {width : Nat}
    (inRange : InRange { width, signed := true } value) :
    read { width, signed := false } (bytes { width, signed := true } value) =
        value ↔ 0 ≤ value := by
  have below : value < (256 ^ width / 2 : Nat) := inRange.2
  have half : (256 ^ width / 2 : Nat) ≤ (256 ^ width : Nat) :=
    Nat.div_le_self _ 2
  constructor
  · intro same
    rw [← same]
    exact Int.natCast_nonneg _
  · intro positive
    have unsigned : InRange { width, signed := false } value :=
      ⟨positive, lt_of_lt_of_le below (by exact_mod_cast half)⟩
    exact read_bytes unsigned

end Code

def hdrBytes : List (String × Code) → List Int → Bytes
  | entry :: rest, value :: values =>
      entry.2.bytes value ++ hdrBytes rest values
  | _, _ => []

def hdrValues (hdr : List (String × Code)) (values : List Int) :
    List (String × Int) :=
  List.zipWith (fun entry value => (entry.1, value)) hdr values

section Values

variable {hdr : List (String × Code)} {values : List Int}

theorem hdrBytes_length
    (inRange : List.Forall₂ (fun entry value => entry.2.InRange value) hdr
      values) :
    (hdrBytes hdr values).length =
      (hdr.map fun entry => entry.2.width).sum := by
  induction inRange with
  | nil => rfl
  | cons first _others ih =>
      rw [hdrBytes, List.length_append, Code.bytes_length, ih, List.map_cons,
        List.sum_cons]

theorem readHdr_bytes
    (inRange : List.Forall₂ (fun entry value => entry.2.InRange value) hdr
      values) (behind : Bytes) :
    readHdr hdr (hdrBytes hdr values ++ behind) = hdrValues hdr values := by
  induction inRange with
  | nil => rfl
  | @cons entry value rest values first _others ih =>
      have length : (entry.2.bytes value).length = entry.2.width :=
        Code.bytes_length
      rw [hdrBytes, List.append_assoc, readHdr, List.take_left' length,
        List.drop_left' length, ih, Code.read_bytes first]
      rfl

theorem readHdr_append {bytes : Bytes}
    (enough : (hdr.map fun entry => entry.2.width).sum ≤ bytes.length)
    (behind : Bytes) : readHdr hdr (bytes ++ behind) = readHdr hdr bytes := by
  induction hdr generalizing bytes with
  | nil => rfl
  | cons entry rest ih =>
      rw [List.map_cons, List.sum_cons] at enough
      have others : (rest.map fun entry => entry.2.width).sum ≤
          (bytes.drop entry.2.width).length := by
        rw [List.length_drop]
        omega
      rw [readHdr, readHdr, List.take_append_of_le_length (by omega),
        List.drop_append_of_le_length (by omega), ih others]

end Values

/-- A field of the list, by its bit and by the numbers that it consists of, with
the names that they have in dpkt/radiotap.py. -/
structure DefinedField where
  bit : Nat
  name : String
  hdr : List (String × Code)
deriving DecidableEq, Repr

def unsigned (bits : Nat) : Code := { width := bits / 8, signed := false }

def signed (bits : Nat) : Code := { width := bits / 8, signed := true }

def definedFields : List DefinedField :=
  [⟨0, "tsft", [("usecs", unsigned 64)]⟩,
    ⟨1, "flags", [("val", unsigned 8)]⟩,
    ⟨2, "rate", [("val", unsigned 8)]⟩,
    ⟨3, "channel", [("freq", unsigned 16), ("flags", unsigned 16)]⟩,
    ⟨4, "fhss", [("set", unsigned 8), ("pattern", unsigned 8)]⟩,
    ⟨5, "ant_sig", [("db", signed 8)]⟩,
    ⟨6, "ant_noise", [("db", signed 8)]⟩,
    ⟨7, "lock_qual", [("val", unsigned 16)]⟩,
    ⟨8, "tx_attn", [("val", unsigned 16)]⟩,
    ⟨9, "db_tx_attn", [("db", unsigned 16)]⟩,
    ⟨10, "dbm_tx_power", [("dbm", signed 8)]⟩,
    ⟨11, "ant", [("index", unsigned 8)]⟩,
    ⟨12, "db_ant_sig", [("db", unsigned 8)]⟩,
    ⟨13, "db_ant_noise", [("db", unsigned 8)]⟩,
    ⟨14, "rx_flags", [("val", unsigned 16)]⟩,
    ⟨18, "chanplus", [("flags", unsigned 32), ("freq", unsigned 16),
      ("channel", unsigned 8), ("maxpower", unsigned 8)]⟩]

namespace DefinedField

/-- The natural alignment: the width of the widest number. -/
def align (defined : DefinedField) : Nat :=
  (defined.hdr.map fun entry => entry.2.width).foldr max 1

/-- The entry of `field_decoder` for the bit. -/
def decoder (defined : DefinedField) : Decoder :=
  (fieldDecoder.find? fun decoder => decoder.bit = defined.bit).getD
    ⟨defined.name, defined.bit, antenna⟩

theorem map_decoder : definedFields.map decoder = fieldDecoder := by decide

/-- What the entry has in common with the field. -/
structure Agrees (defined : DefinedField) : Prop where
  bit : defined.decoder.bit = defined.bit
  name : defined.decoder.name = defined.name
  alignment : defined.decoder.parser.alignment = defined.align
  hdrLen : defined.decoder.parser.hdrLen =
    (defined.hdr.map fun entry => entry.2.width).sum

theorem agrees : ∀ defined ∈ definedFields, defined.Agrees := by
  have all : ∀ defined ∈ definedFields,
      defined.decoder.bit = defined.bit ∧
        defined.decoder.name = defined.name ∧
        defined.decoder.parser.alignment = defined.align ∧
        defined.decoder.parser.hdrLen =
          (defined.hdr.map fun entry => entry.2.width).sum := by
    decide
  intro defined among
  obtain ⟨bit, name, alignment, hdrLen⟩ := all defined among
  exact ⟨bit, name, alignment, hdrLen⟩

theorem hdr_cases : ∀ defined ∈ definedFields,
    defined.decoder.parser.hdr = defined.hdr ∧ defined.bit ≠ 10 ∨
      defined = ⟨10, "dbm_tx_power", [("dbm", signed 8)]⟩ := by
  decide

end DefinedField

/-- A field that is there, with values that its numbers can have. -/
structure PresentField where
  defined : DefinedField
  among : defined ∈ definedFields
  values : List Int
  inRange : List.Forall₂ (fun entry value => entry.2.InRange value)
    defined.hdr values

namespace PresentField

variable (present : PresentField)

def align : Nat := present.defined.align

def bytes : Bytes := hdrBytes present.defined.hdr present.values

def named : List (String × Int) :=
  hdrValues present.defined.hdr present.values

def field : RadiotapField where
  cls := present.defined.decoder.parser
  values := readHdr present.defined.decoder.parser.hdr present.bytes
  data := []

theorem align_pos : 0 < present.align := by
  have positive : ∀ defined ∈ definedFields, 0 < defined.align := by decide
  exact positive present.defined present.among

theorem agrees : present.defined.Agrees :=
  DefinedField.agrees present.defined present.among

theorem bytes_length :
    present.bytes.length = present.defined.decoder.parser.hdrLen := by
  rw [present.agrees.hdrLen]
  exact hdrBytes_length present.inRange

theorem init_bytes (behind : Bytes) :
    RadiotapField.init present.defined.decoder.parser
        (present.bytes ++ behind) =
      .ok { present.field with data := behind } := by
  have length := present.bytes_length
  have enough : ¬(present.bytes ++ behind).length <
      present.defined.decoder.parser.hdrLen := by
    rw [List.length_append]
    omega
  refine packetInit_eq_ok.mpr ?_
  unfold RadiotapField.unpack
  rw [if_neg enough, List.drop_left' length,
    readHdr_append (Nat.le_of_eq length.symm)]
  rfl

/-- The transmit power, if it is the one, is not negative. -/
def PowerRead : Prop :=
  present.defined.bit = 10 → ∀ value ∈ present.values, 0 ≤ value

theorem values_eq_iff :
    present.field.values = present.named ↔ present.PowerRead := by
  obtain ⟨defined, among, values, inRange⟩ := present
  unfold field PresentField.named PresentField.bytes PowerRead
  dsimp only at inRange ⊢
  rcases DefinedField.hdr_cases defined among with ⟨same, other⟩ | rfl
  · have read := readHdr_bytes inRange []
    rw [List.append_nil] at read
    rw [same, read]
    exact iff_of_true rfl fun power => absurd power other
  · obtain ⟨value, rest, first, others, rfl⟩ :=
      List.forall₂_cons_left_iff.mp inRange
    rw [List.forall₂_nil_left_iff] at others
    subst others
    have length : ((signed 8).bytes value).length = 1 := Code.bytes_length
    have read : readHdr [("dbm", charB)]
        (hdrBytes [("dbm", signed 8)] [value]) =
          [("dbm", (unsigned 8).read ((signed 8).bytes value))] := by
      change readHdr [("dbm", charB)] ((signed 8).bytes value ++ []) = _
      rw [readHdr]
      change [("dbm", charB.read (List.take 1 _))] = _
      rw [List.take_left' length]
      rfl
    have unread := @Code.read_unsigned_iff value 1 first
    change readHdr [("dbm", charB)] _ = [("dbm", value)] ↔ _
    rw [read]
    constructor
    · intro same _bit other among
      rw [List.mem_singleton.mp among]
      exact unread.mp (congrArg Prod.snd (List.cons.inj same).1)
    · intro power
      have positive := power rfl value (List.mem_singleton.mpr rfl)
      exact congrArg (fun shown => [("dbm", shown)]) (unread.mpr positive)

end PresentField

def readField (decoder : Decoder) (buf : Bytes) :
    Except PyError ((String × RadiotapField) × Nat) := do
  let parsed ← RadiotapField.init decoder.parser buf
  let field := { parsed with data := [] }
  .ok ((decoder.name, field), field.len)

theorem readField_bytes (present : PresentField) (behind : Bytes) :
    readField present.defined.decoder (present.bytes ++ behind) =
      .ok ((present.defined.name, present.field), present.bytes.length) := by
  unfold readField
  rw [present.init_bytes, ok_bind, present.bytes_length, present.agrees.name]
  rfl

theorem padding_source (ali offset : Nat) :
    (if ali > 1 ∧ offset % ali ≠ 0 then ali - offset % ali else 0) =
      padding ali offset := by
  unfold padding
  by_cases aligned : offset % ali = 0
  · rw [if_pos aligned, if_neg fun both => both.2 aligned]
  · rw [if_neg aligned]
    split
    · rfl
    · rename_i plain
      have one : ali ≠ 1 := by
        rintro rfl
        exact aligned (Nat.mod_one offset)
      omega

/-- The loop reads the fields that are there, each where it is aligned. -/
theorem decodeFields_eq (entries : List (Decoder × Bool)) (buf : Bytes)
    (offset : Nat) :
    decodeFields entries buf offset =
      readAligned ((entries.filter Prod.snd).map fun entry =>
        ⟨entry.1.parser.alignment, readField entry.1⟩) buf offset := by
  induction entries generalizing buf offset with
  | nil => rfl
  | cons entry rest ih =>
      obtain ⟨decoder, present⟩ := entry
      cases present with
      | false =>
          rw [decodeFields, ih]
          rfl
      | true =>
          rw [List.filter_cons_of_pos rfl, List.map_cons, readAligned,
            decodeFields]
          dsimp only
          rw [padding_source]
          unfold readField
          cases RadiotapField.init decoder.parser
              (buf.drop (padding decoder.parser.alignment offset)) with
          | error problem => rfl
          | ok parsed =>
              rw [ok_bind, ok_bind, ok_bind, ih, List.drop_drop]
              rfl

/-! ### The present words of a header -/

def wordBytes (word : Nat) : Bytes :=
  ByteOrder.little.arrange (beBytes 4 word)

/-- Present words, of which all but the last one have bit 31 set. -/
def presentBytes : Nat → List Nat → Bytes
  | word, [] => wordBytes word
  | word, next :: rest => wordBytes (2 ^ 31 + word) ++ presentBytes next rest

/-- The first of the words, as it stands in the header. -/
def leadWord (word : Nat) (extended : List Nat) : Nat :=
  if extended = [] then word else 2 ^ 31 + word

section Words

variable {word : Nat} {extended : List Nat}

theorem wordBytes_length (word : Nat) : (wordBytes word).length = 4 := by
  unfold wordBytes
  rw [ByteOrder.arrange_length, beBytes_length]

theorem presentBytes_length (word : Nat) (extended : List Nat) :
    (presentBytes word extended).length = 4 * (extended.length + 1) := by
  induction extended generalizing word with
  | nil => exact wordBytes_length word
  | cons next rest ih =>
      rw [presentBytes, List.length_append, wordBytes_length, ih,
        List.length_cons]
      omega

theorem presentBytes_lead (word : Nat) (extended : List Nat) :
    presentBytes word extended =
      wordBytes (leadWord word extended) ++
        (presentBytes word extended).drop 4 := by
  cases extended with
  | nil =>
      have length := wordBytes_length word
      rw [presentBytes, leadWord, if_pos rfl, List.drop_eq_nil_of_le (by omega),
        List.append_nil]
  | cons next rest =>
      rw [presentBytes, leadWord, if_neg (List.cons_ne_nil _ _),
        List.drop_left' (wordBytes_length _)]

theorem byteAt_little {width index : Nat} (inside : index < width)
    (value : Nat) :
    byteAt (ByteOrder.little.arrange (beBytes width value)) index =
      .ok (value / 256 ^ index % 256) := by
  induction width generalizing value index with
  | zero => cases inside
  | succ width ih =>
      have front : ByteOrder.little.arrange (beBytes (width + 1) value) =
          UInt8.ofNat value ::
            ByteOrder.little.arrange (beBytes width (value / 256)) := by
        change (beBytes width (value / 256) ++ [UInt8.ofNat value]).reverse = _
        rw [List.reverse_append]
        rfl
      rw [front]
      cases index with
      | zero =>
          change Except.ok (UInt8.ofNat value).toNat = _
          rw [UInt8.toNat_ofNat', pow_zero, Nat.div_one]
      | succ index =>
          change byteAt (ByteOrder.little.arrange (beBytes width (value / 256)))
            index = _
          rw [ih (Nat.lt_of_succ_lt_succ inside), pow_succ',
            Nat.div_div_eq_div_mul]

theorem isPresent_word {bit : Nat} (inside : bit < 32) (front behind : Bytes)
    (word : Nat) :
    isPresent (front ++ (wordBytes word ++ behind)) (8 * front.length + bit) =
      .ok (word.testBit bit) := by
  have index : (8 * front.length + bit) / 8 = front.length + bit / 8 := by
    omega
  have place : (8 * front.length + bit) % 8 = bit % 8 := by omega
  have four : (wordBytes word).length = 4 := wordBytes_length word
  have byte : byteAt (front ++ (wordBytes word ++ behind))
      (front.length + bit / 8) = .ok (word / 256 ^ (bit / 8) % 256) := by
    rw [byteAt_behind rfl (Nat.le_add_right _ _), Nat.add_sub_cancel_left]
    have alone := @byteAt_little 4 (bit / 8) (by omega) word
    unfold byteAt at alone ⊢
    rw [List.getElem?_append_left (by omega)]
    exact alone
  have tested : (word / 256 ^ (bit / 8) % 256).testBit (bit % 8) =
      word.testBit bit := by
    have small : bit % 8 < 8 := Nat.mod_lt _ (by omega)
    rw [show 256 = 2 ^ 8 from rfl, ← pow_mul, Nat.testBit_mod_two_pow,
      decide_eq_true small, Bool.true_and, Nat.testBit_div_two_pow,
      Nat.mod_add_div]
  unfold isPresent
  rw [index, place, byte, ok_bind, Nat.one_shiftLeft, Nat.and_two_pow, tested]
  cases word.testBit bit with
  | false => rw [Bool.toNat_false, Nat.zero_mul]; rfl
  | true =>
      rw [Bool.toNat_true, Nat.one_mul, decide_eq_true (Nat.two_pow_pos _).ne']

theorem leadWord_testBit {bit : Nat} (below : bit < 31) :
    (leadWord word extended).testBit bit = word.testBit bit := by
  unfold leadWord
  split
  · rfl
  · exact Nat.testBit_two_pow_add_gt below word

theorem leadWord_ext (narrow : word < 2 ^ 31) :
    (leadWord word extended).testBit 31 = decide (extended ≠ []) := by
  have clear : word.testBit 31 = false := Nat.testBit_lt_two_pow narrow
  unfold leadWord
  split
  · rename_i none
    rw [clear, none]
    rfl
  · rename_i more
    rw [Nat.testBit_two_pow_add_eq, clear, decide_eq_true more]
    rfl

/-- From the lead word on, the loop takes the words and leaves what stands
behind them. -/
theorem presentWords_words (narrow : word < 2 ^ 31)
    (others : ∀ next ∈ extended, next < 2 ^ 31) (front behind : Bytes) :
    presentWords (front ++ wordBytes (leadWord word extended))
        ((presentBytes word extended).drop 4 ++ behind)
        (8 * front.length + 31) =
      .ok (front ++ presentBytes word extended, behind) := by
  induction extended generalizing word front with
  | nil =>
      have last := isPresent_word (show 31 < 32 by omega) front []
        (leadWord word [])
      rw [List.append_nil, leadWord_ext narrow] at last
      have behindLast : (presentBytes word []).drop 4 = [] :=
        List.drop_eq_nil_of_le (Nat.le_of_eq (wordBytes_length word))
      rw [presentWords_stops last, behindLast]
      rfl
  | cons next rest ih =>
      rw [List.forall_mem_cons] at others
      have more := isPresent_word (show 31 < 32 by omega) front []
        (leadWord word (next :: rest))
      rw [List.append_nil, leadWord_ext narrow] at more
      have four : (wordBytes (leadWord next rest)).length = 4 :=
        wordBytes_length _
      have words : (presentBytes word (next :: rest)).drop 4 ++ behind =
          wordBytes (leadWord next rest) ++
            ((presentBytes next rest).drop 4 ++ behind) := by
        rw [presentBytes, List.drop_left' (wordBytes_length _),
          ← List.append_assoc, ← presentBytes_lead]
      have further := ih others.1 others.2
        (front ++ wordBytes (leadWord word (next :: rest)))
      rw [List.length_append, wordBytes_length, List.append_assoc,
        List.append_assoc, Nat.mul_add, Nat.add_right_comm] at further
      rw [presentWords_goes more, words, List.take_left' four,
        List.drop_left' four, List.append_assoc]
      exact further

end Words

/-! ### Encoded headers -/

/-- A header with the fields that the present word announces, in the order of
their bits.  The bits of the further words are free; what they announce is
`trailing`.  The length leaves nothing behind the header. -/
structure RadiotapHeader where
  version : UInt8
  pad : UInt8
  length : Nat
  present : Nat
  extended : List Nat
  fields : List PresentField
  body : Bytes
  trailing : Bytes
  supported : ∀ bit, present.testBit bit = true → bit < 15 ∨ bit = 18
  narrow : ∀ word ∈ extended, word < 2 ^ 31
  announced : fields.map PresentField.defined =
    definedFields.filter fun defined => present.testBit defined.bit
  aligned : LaidOut PresentField.align PresentField.bytes
    (4 + 4 * (extended.length + 1)) fields body
  covers : 4 + 4 * (extended.length + 1) + body.length + trailing.length ≤
    length
  short : length < 256 ^ 2

namespace RadiotapHeader

/-- Any announced fields make a header, with zero bytes in between, unless it
is too long for its length. -/
def ofFields (version pad : UInt8) (present : Nat) (extended : List Nat)
    (fields : List PresentField)
    (supported : ∀ bit, present.testBit bit = true → bit < 15 ∨ bit = 18)
    (narrow : ∀ word ∈ extended, word < 2 ^ 31)
    (announced : fields.map PresentField.defined =
      definedFields.filter fun defined => present.testBit defined.bit)
    (short : 4 + 4 * (extended.length + 1) +
      (layOut PresentField.align PresentField.bytes 0
        (4 + 4 * (extended.length + 1)) fields).length < 256 ^ 2) :
    RadiotapHeader where
  version
  pad
  length := 4 + 4 * (extended.length + 1) +
    (layOut PresentField.align PresentField.bytes 0
      (4 + 4 * (extended.length + 1)) fields).length
  present
  extended
  fields
  body := layOut PresentField.align PresentField.bytes 0
    (4 + 4 * (extended.length + 1)) fields
  trailing := []
  supported
  narrow
  announced
  aligned := layOut_laidOut (fun field _among => field.align_pos) _ _ _
  covers := Nat.le_refl _
  short

def hdr (header : RadiotapHeader) : List (Nat × Nat) :=
  [(1, header.version.toNat), (1, header.pad.toNat), (2, header.length)]

def bytes (header : RadiotapHeader) : Bytes :=
  ByteOrder.little.fieldBytes header.hdr ++
    (presentBytes header.present header.extended ++
      (header.body ++ header.trailing))

/-- The object has the fields of the header with their values, in order, and no
others. -/
structure Describes (header : RadiotapHeader) {Frame : Type}
    (radiotap : Radiotap Frame) : Prop where
  version : radiotap.version = header.version.toNat
  pad : radiotap.pad = header.pad.toNat
  length : radiotap.length = header.length
  presentFlags : radiotap.presentFlags =
    presentBytes header.present header.extended
  named : (radiotap.named.map fun entry => (entry.1, entry.2.values)) =
    header.fields.map fun present => (present.defined.name, present.named)
  fields : radiotap.fields = radiotap.named.map Prod.snd
  emptied : ∀ field ∈ radiotap.fields, field.data = []
  absent : ∀ defined ∈ definedFields,
    header.present.testBit defined.bit = false →
      radiotap.named.lookup defined.name = none
  data : radiotap.data = .bytes []

variable (header : RadiotapHeader)

/-- What `Radiotap` makes of the header. -/
def decoded (Frame : Type) : Radiotap Frame where
  version := header.version.toNat
  pad := header.pad.toNat
  length := header.length
  presentFlags := presentBytes header.present header.extended
  named := header.fields.map fun present =>
    (present.defined.name, present.field)
  fields := header.fields.map PresentField.field
  data := .bytes []

theorem present_lt : header.present < 2 ^ 31 := by
  apply Nat.lt_pow_two_of_testBit
  intro bit high
  by_contra set_
  have supported := header.supported bit (Bool.eq_true_of_not_eq_false set_)
  omega

/-- The first present word says which fields are there. -/
theorem presentBits_eq :
    presentBits (presentBytes header.present header.extended) fieldDecoder =
      .ok (fieldDecoder.map fun decoder =>
        (decoder, header.present.testBit decoder.bit)) := by
  have low : ∀ decoder ∈ fieldDecoder, decoder.bit < 31 := by decide
  have read (decoder : Decoder) (below : decoder.bit < 31) :
      isPresent (presentBytes header.present header.extended) decoder.bit =
        .ok (header.present.testBit decoder.bit) := by
    have word := isPresent_word (show decoder.bit < 32 by omega) []
      ((presentBytes header.present header.extended).drop 4)
      (leadWord header.present header.extended)
    rw [List.nil_append, ← presentBytes_lead, List.length_nil, Nat.mul_zero,
      Nat.zero_add, leadWord_testBit below] at word
    exact word
  have all (decoders : List Decoder)
      (below : ∀ decoder ∈ decoders, decoder.bit < 31) :
      presentBits (presentBytes header.present header.extended) decoders =
        .ok (decoders.map fun decoder =>
          (decoder, header.present.testBit decoder.bit)) := by
    induction decoders with
    | nil => rfl
    | cons decoder rest ih =>
        rw [List.forall_mem_cons] at below
        rw [presentBits, read decoder below.1, ok_bind, ih below.2]
        rfl
  exact all fieldDecoder low

theorem announced_decoders :
    (fieldDecoder.filter fun decoder => header.present.testBit decoder.bit) =
      header.fields.map (DefinedField.decoder ∘ PresentField.defined) := by
  have bits : ∀ defined ∈ definedFields,
      header.present.testBit defined.decoder.bit =
        header.present.testBit defined.bit := by
    intro defined among
    rw [(DefinedField.agrees defined among).bit]
  rw [← List.map_map, header.announced, ← DefinedField.map_decoder,
    List.filter_map]
  exact congrArg _ (List.filter_congr bits)

theorem decodeFields_body :
    decodeFields
        (fieldDecoder.map fun decoder =>
          (decoder, header.present.testBit decoder.bit))
        (header.body ++ header.trailing)
        (4 + 4 * (header.extended.length + 1)) =
      .ok (header.fields.map fun present =>
        (present.defined.name, present.field)) := by
  have readers : ((fieldDecoder.map fun decoder =>
      (decoder, header.present.testBit decoder.bit)).filter Prod.snd).map
        (fun entry => AlignedReader.mk entry.1.parser.alignment
          (readField entry.1)) =
      header.fields.map fun present =>
        ⟨present.align, readField present.defined.decoder⟩ := by
    have there := congrArg (List.map fun decoder : Decoder =>
      AlignedReader.mk decoder.parser.alignment (readField decoder))
      header.announced_decoders
    rw [List.map_map] at there
    rw [List.filter_map, List.map_map]
    refine Eq.trans there (List.map_congr_left ?_)
    intro present _among
    exact congrArg (AlignedReader.mk · _) present.agrees.alignment
  rw [decodeFields_eq, readers]
  exact readAligned_laidOut (fun present => readField present.defined.decoder) _
    header.aligned (fun present _among behind =>
      readField_bytes present behind) header.trailing

theorem lookup_absent {defined : DefinedField} (among : defined ∈ definedFields)
    (clear : header.present.testBit defined.bit = false) :
    (header.fields.map fun present =>
      (present.defined.name, present.field)).lookup defined.name = none := by
  have names : (definedFields.map DefinedField.name).Nodup := by decide
  rw [List.lookup_eq_none_iff]
  intro entry set_
  obtain ⟨present, field, rfl⟩ := List.mem_map.mp set_
  have announced : present.defined ∈ definedFields.filter fun defined =>
      header.present.testBit defined.bit := by
    rw [← header.announced]
    exact List.mem_map_of_mem field
  rw [List.mem_filter] at announced
  rw [bne_iff_ne]
  intro same
  have defined_eq := List.inj_on_of_nodup_map names among announced.1 same
  rw [defined_eq, announced.2] at clear
  cases clear

theorem init_bytes {Frame : Type}
    (ieee80211 : Option Nat → Bytes → Except PyError Frame) :
    Radiotap.init ieee80211 header.bytes = .ok (header.decoded Frame) := by
  have fits : FieldsFit header.hdr := by
    refine fieldsFit_cons.mpr ⟨header.version.toNat_lt, ?_⟩
    refine fieldsFit_cons.mpr ⟨header.pad.toNat_lt, ?_⟩
    exact fieldsFit_cons.mpr ⟨header.short, fieldsFit_nil⟩
  have four : (ByteOrder.little.fieldBytes header.hdr).length = 4 :=
    ByteOrder.little.fieldBytes_length header.hdr
  have parsed : ByteOrder.little.unpackHdr [1, 1, 2] header.bytes =
      .ok [header.version.toNat, header.pad.toNat, header.length] :=
    ByteOrder.little.unpackHdr_fieldBytes fits _
  have size := presentBytes_length header.present header.extended
  have rest : header.bytes.drop 4 =
      wordBytes (leadWord header.present header.extended) ++
        ((presentBytes header.present header.extended).drop 4 ++
          (header.body ++ header.trailing)) := by
    unfold RadiotapHeader.bytes
    rw [List.drop_left' four, ← List.append_assoc (wordBytes _),
      ← presentBytes_lead]
  have words := presentWords_words header.present_lt header.narrow []
    (header.body ++ header.trailing)
  rw [List.nil_append, List.nil_append, List.length_nil, Nat.mul_zero,
    Nat.zero_add] at words
  have nothing : header.bytes.drop header.length = [] := by
    have covers := header.covers
    apply List.drop_eq_nil_of_le
    unfold RadiotapHeader.bytes
    simp only [List.length_append]
    omega
  refine packetInit_eq_ok.mpr ?_
  unfold Radiotap.unpack
  rw [parsed, ok_bind]
  simp only [List.getD_cons_succ, List.getD_cons_zero]
  rw [rest, List.take_left' (wordBytes_length _),
    List.drop_left' (wordBytes_length _), words, ok_bind,
    header.presentBits_eq, ok_bind, size, header.decodeFields_body, ok_bind,
    nothing]
  unfold decoded
  simp only [List.map_map]
  rfl

/-- The transmit power is the one field whose value may come out wrong. -/
theorem describes_decoded_iff (Frame : Type) :
    header.Describes (header.decoded Frame) ↔
      ∀ present ∈ header.fields, present.PowerRead := by
  have named : ((header.decoded Frame).named.map fun entry =>
      (entry.1, entry.2.values)) =
      header.fields.map fun present =>
        (present.defined.name, present.field.values) := List.map_map
  have fields : (header.decoded Frame).named.map Prod.snd =
      (header.decoded Frame).fields := List.map_map
  constructor
  · intro describes present among
    have same := describes.named
    rw [named] at same
    have entry := List.map_inj_left.mp same present among
    exact present.values_eq_iff.mp (congrArg Prod.snd entry)
  · intro power
    exact {
      version := rfl
      pad := rfl
      length := rfl
      presentFlags := rfl
      named := by
        rw [named]
        apply List.map_congr_left
        intro present among
        rw [present.values_eq_iff.mpr (power present among)]
      fields := fields.symm
      emptied := by
        intro field among
        obtain ⟨present, -, rfl⟩ := List.mem_map.mp among
        rfl
      absent := fun defined among clear => header.lookup_absent among clear
      data := rfl }

end RadiotapHeader

/-- Whatever fields are there, and however many present words stand in front of
them, they are decoded in order with their values, and no others are, exactly
when the transmit power is not there or not negative. -/
theorem radiotap_decodes_iff {Frame : Type}
    (ieee80211 : Option Nat → Bytes → Except PyError Frame)
    (header : RadiotapHeader) :
    (∃ radiotap, Radiotap.init ieee80211 header.bytes = .ok radiotap ∧
      header.Describes radiotap) ↔
        ∀ present ∈ header.fields, present.defined.bit = 10 →
          ∀ value ∈ present.values, 0 ≤ value := by
  refine Iff.trans ?_ (header.describes_decoded_iff Frame)
  rw [header.init_bytes]
  constructor
  · rintro ⟨radiotap, same, describes⟩
    cases same
    exact describes
  · exact fun describes => ⟨_, rfl, describes⟩

/-- The transmit power is announced, and it is -10 dBm. -/
def tenBelow : RadiotapHeader :=
  RadiotapHeader.ofFields 0 0 (2 ^ 10) []
    [{ defined := ⟨10, "dbm_tx_power", [("dbm", signed 8)]⟩
       among := by decide
       values := [-10]
       inRange := .cons (by decide) .nil }]
    (by
      intro bit set_
      rw [Nat.testBit_two_pow] at set_
      have power : 10 = bit := of_decide_eq_true set_
      omega)
    (by
      intro word among
      cases among)
    (by decide) (by decide)

/-- It comes out as 246. -/
theorem tenBelow_misread :
    tenBelow.bytes = [0, 0, 9, 0, 0, 4, 0, 0, 246] ∧
      (tenBelow.decoded Unit).named = [("dbm_tx_power",
        { cls := dbmTxPower, values := [("dbm", 246)], data := [] })] ∧
      ¬∃ radiotap, Radiotap.init (fun _ _ => .ok ()) tenBelow.bytes =
        .ok radiotap ∧ tenBelow.Describes radiotap := by
  refine ⟨by decide, by decide, ?_⟩
  rw [tenBelow.init_bytes]
  rintro ⟨radiotap, same, describes⟩
  cases same
  have power := (tenBelow.describes_decoded_iff Unit).mp describes _
    (List.mem_singleton.mpr rfl) rfl (-10) (List.mem_singleton.mpr rfl)
  omega

end DpktNg.Ieee80211
