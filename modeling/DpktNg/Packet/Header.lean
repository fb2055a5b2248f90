/-
Packet classes that keep the methods of `Packet`, dpkt/dpkt.py: construction
from field values, `pack_hdr`, `__bytes__` and `unpack`.  The `struct` module is
a parameter, of which each format character packs and unpacks its own values.
-/

import DpktNg.Python.Struct

namespace DpktNg.Packet

open Library

/-- The format characters of `struct` in one byte order, with standard sizes.
The repeat count of a string character belongs to the character. -/
structure StructCodes where
  Code : Type
  Value : Type
  size : Code → Nat
  InRange : Code → Value → Prop
  pack : Code → Value → Except PyError Bytes
  /-- A tuple in the place of a value. -/
  packTuple : Code → List Value → Except PyError Bytes
  unpack : Code → Bytes → Value
  packs : ∀ code value, InRange code value →
    ∃ bytes, pack code value = .ok bytes ∧ bytes.length = size code ∧
      unpack code bytes = value

variable (codes : StructCodes)

/-- A part of a format: a character that takes a value, or a pad byte. -/
inductive Slot where
  | item (code : codes.Code)
  | pad

variable {codes}

def Slot.size : Slot codes → Nat
  | .item code => codes.size code
  | .pad => 1

def Slot.code? : Slot codes → Option codes.Code
  | .item code => some code
  | .pad => none

def calcsize (format : List (Slot codes)) : Nat := (format.map Slot.size).sum

/-- The characters of a format that take values. -/
def items (format : List (Slot codes)) : List codes.Code :=
  format.filterMap Slot.code?

/-- An argument of `struct.pack`, and the value of a field. -/
inductive FieldValue (codes : StructCodes) where
  | scalar (value : codes.Value)
  | tuple (values : List codes.Value)

def packValue (code : codes.Code) : FieldValue codes → Except PyError Bytes
  | .scalar value => codes.pack code value
  | .tuple values => codes.packTuple code values

/-- As many values as the format takes, packed one after another. -/
def packSlots :
    List (Slot codes) → List (FieldValue codes) → Except PyError Bytes
  | [], _ => .ok []
  | .pad :: format, values => do .ok (0 :: (← packSlots format values))
  | .item _ :: _, [] => .error .structError
  | .item code :: format, value :: values => do
      .ok ((← packValue code value) ++ (← packSlots format values))

def structPack (format : List (Slot codes)) (values : List (FieldValue codes)) :
    Except PyError Bytes :=
  if values.length = (items format).length then packSlots format values
  else .error .structError

/-- The values of the bytes of a format. -/
def structValues : List (Slot codes) → Bytes → List codes.Value
  | [], _ => []
  | .pad :: format, bytes => structValues format (bytes.drop 1)
  | .item code :: format, bytes =>
      codes.unpack code (bytes.take (codes.size code)) ::
        structValues format (bytes.drop (codes.size code))

/-- `struct.unpack(format, bytes)` -/
def structUnpack (format : List (Slot codes)) (bytes : Bytes) :
    Except PyError (List codes.Value) :=
  if bytes.length = calcsize format then .ok (structValues format bytes)
  else .error .structError

variable (codes)

/-- `(name, structfmt, default)` -/
structure HeaderField where
  name : PyStr
  format : List (Slot codes)
  default : FieldValue codes

/-- A class with `__hdr__`.  The attribute `data` is not a field of the
header. -/
structure PacketClass where
  hdr : List (HeaderField codes)
  withoutData : ∀ field ∈ hdr, field.name ≠ "data".toList

/-- The attributes of a packet. -/
structure Instance where
  attrs : PyStr → Option (FieldValue codes)
  data : Bytes

variable {codes}

/-- The values of a tuple on their own. -/
def FieldValue.flat : FieldValue codes → List (FieldValue codes)
  | .scalar value => [.scalar value]
  | .tuple values => values.map .scalar

def setattr (attrs : PyStr → Option (FieldValue codes)) (name : PyStr)
    (value : FieldValue codes) : PyStr → Option (FieldValue codes) :=
  fun other => if other = name then some value else attrs other

/-- Assignments one after another. -/
def setAll (attrs : PyStr → Option (FieldValue codes)) :
    List (PyStr × FieldValue codes) → PyStr → Option (FieldValue codes)
  | [] => attrs
  | (name, value) :: rest => setAll (setattr attrs name value) rest

namespace PacketClass

variable (cls : PacketClass codes)

def hdrFmt : List (Slot codes) := cls.hdr.flatMap HeaderField.format

def hdrLen : Nat := calcsize cls.hdrFmt

/-- `Cls(field=value, ..., data=data)`: the defaults, and then the values. -/
def create (fields : List (PyStr × FieldValue codes)) (data : Bytes) :
    Instance codes where
  attrs := setAll
    (setAll (fun _name => none)
      (cls.hdr.map fun field => (field.name, field.default))) fields
  data := data

/-- `getattr(self, k)` for every field of the header. -/
def fieldValues (self : Instance codes) :
    List (HeaderField codes) → Except PyError (List (FieldValue codes))
  | [] => .ok []
  | field :: rest =>
      match self.attrs field.name with
      | none => .error .attributeError
      | some value => do .ok (value :: (← fieldValues self rest))

/-- The second attempt of `pack_hdr`, with the tuples flattened.  The message
of its error is the text of `struct.error`. -/
def packFlat (values : List (FieldValue codes)) : Except PyError Bytes :=
  match structPack cls.hdrFmt (values.flatMap FieldValue.flat) with
  | .error .structError => .error (.packError [])
  | result => result

def packHdr (self : Instance codes) : Except PyError Bytes := do
  let values ← fieldValues self cls.hdr
  match structPack cls.hdrFmt values with
  | .error .structError => cls.packFlat values
  | .error .typeError => cls.packFlat values
  | result => result

def bytes (self : Instance codes) : Except PyError Bytes := do
  .ok ((← cls.packHdr self) ++ self.data)

/-- `unpack`, which pairs the names with the unpacked values. -/
def unpack (buf : Bytes) : Except PyError (Instance codes) := do
  let values ← structUnpack cls.hdrFmt (buf.take cls.hdrLen)
  .ok
    { attrs := setAll (fun _name => none)
        ((cls.hdr.map HeaderField.name).zip (values.map FieldValue.scalar))
      data := buf.drop cls.hdrLen }

def parse (className : String) : Bytes → Except PyError (Instance codes) :=
  packetInit className (some cls.hdrLen) cls.unpack

end PacketClass

/-! ### Packing and unpacking -/

/-- A value of a field: in range for its one character, or a tuple of as many
values in range as the format takes. -/
inductive FieldValue.Fits : List codes.Code → FieldValue codes → Prop where
  | scalar {code : codes.Code} {value : codes.Value}
      (inRange : codes.InRange code value) : Fits [code] (.scalar value)
  | tuple {list : List codes.Code} {values : List codes.Value}
      (several : list.length ≠ 1)
      (inRange : List.Forall₂ codes.InRange list values) :
      Fits list (.tuple values)

theorem packSlots_inRange {format : List (Slot codes)}
    {values : List codes.Value}
    (inRange : List.Forall₂ codes.InRange (items format) values) :
    ∃ bytes, packSlots format (values.map .scalar) = .ok bytes ∧
      bytes.length = calcsize format ∧ structValues format bytes = values := by
  induction format generalizing values with
  | nil =>
      cases inRange
      exact ⟨[], rfl, rfl, rfl⟩
  | cons slot rest ih =>
      cases slot with
      | pad =>
          obtain ⟨bytes, packed, length, unpacked⟩ := ih inRange
          refine ⟨0 :: bytes, ?_, ?_, unpacked⟩
          · rw [packSlots, packed, ok_bind]
          · change bytes.length + 1 = 1 + calcsize rest
            omega
      | item code =>
          change List.Forall₂ codes.InRange (code :: items rest) values
            at inRange
          cases inRange with
          | cons first others =>
              rename_i value values
              obtain ⟨field, packs, size, back⟩ := codes.packs code value first
              obtain ⟨bytes, packed, length, unpacked⟩ := ih others
              have value_packs : packValue code (.scalar value) = .ok field :=
                packs
              refine ⟨field ++ bytes, ?_, ?_, ?_⟩
              · rw [List.map_cons, packSlots, value_packs, ok_bind, packed,
                  ok_bind]
              · rw [List.length_append, size, length]
                rfl
              · rw [structValues, List.take_left' size, List.drop_left' size,
                  back, unpacked]

/-- Values in range are packed, and read back. -/
theorem structPack_inRange {format : List (Slot codes)}
    {values : List codes.Value}
    (inRange : List.Forall₂ codes.InRange (items format) values) :
    ∃ bytes, structPack format (values.map .scalar) = .ok bytes ∧
      bytes.length = calcsize format ∧
        structUnpack format bytes = .ok values := by
  obtain ⟨bytes, packed, length, unpacked⟩ := packSlots_inRange inRange
  have count : (values.map FieldValue.scalar).length = (items format).length := by
    rw [List.length_map]
    exact inRange.length_eq.symm
  refine ⟨bytes, ?_, length, ?_⟩
  · unfold structPack
    rw [if_pos count]
    exact packed
  · unfold structUnpack
    rw [if_pos length, unpacked]

theorem setAll_names {attrs : PyStr → Option (FieldValue codes)}
    {pairs : List (PyStr × FieldValue codes)} {name : PyStr}
    {value : FieldValue codes} (found : setAll attrs pairs name = some value) :
    attrs name = some value ∨ (name, value) ∈ pairs := by
  induction pairs generalizing attrs with
  | nil => exact Or.inl found
  | cons pair rest ih =>
      obtain ⟨first, given⟩ := pair
      rcases ih found with earlier | later
      · unfold setattr at earlier
        split at earlier
        · rename_i same
          cases earlier
          rw [same]
          exact Or.inr List.mem_cons_self
        · exact Or.inl earlier
      · exact Or.inr (List.mem_cons_of_mem _ later)

theorem setAll_agrees {wanted attrs : PyStr → Option (FieldValue codes)}
    {pairs : List (PyStr × FieldValue codes)} {name : PyStr}
    (agree : ∀ pair ∈ pairs, wanted pair.1 = some pair.2)
    (given : (∃ value, (name, value) ∈ pairs) ∨ attrs name = wanted name) :
    setAll attrs pairs name = wanted name := by
  induction pairs generalizing attrs with
  | nil =>
      rcases given with ⟨value, impossible⟩ | same
      · cases impossible
      · exact same
  | cons pair rest ih =>
      obtain ⟨first, value⟩ := pair
      rw [List.forall_mem_cons] at agree
      apply ih agree.2
      by_cases here : name = first
      · right
        unfold setattr
        rw [if_pos here, here]
        exact agree.1.symm
      · rcases given with ⟨other, member⟩ | same
        · left
          rcases List.mem_cons.mp member with first_ | later
          · cases first_
            exact absurd rfl here
          · exact ⟨other, later⟩
        · right
          unfold setattr
          rw [if_neg here]
          exact same

namespace PacketClass

variable (cls : PacketClass codes) (self : Instance codes)

/-- Every field of the header has a value in range. -/
def FieldsInRange : Prop :=
  ∀ field ∈ cls.hdr, ∃ value, self.attrs field.name = some value ∧
    value.Fits (items field.format)

/-- Packing and parsing gives the fields and the data back. -/
def RoundTrips (className : String) : Prop :=
  ∃ buf back, cls.bytes self = .ok buf ∧ cls.parse className buf = .ok back ∧
    (∀ field ∈ cls.hdr, back.attrs field.name = self.attrs field.name) ∧
      back.data = self.data

/-- The formats take one value each. -/
def SingleItems : Prop := ∀ field ∈ cls.hdr, (items field.format).length = 1

variable {cls self}

theorem unpack_scalar {buf : Bytes} {back : Instance codes}
    (unpacked : cls.unpack buf = .ok back) {name : PyStr}
    {value : FieldValue codes} (found : back.attrs name = some value) :
    ∃ single, value = .scalar single := by
  obtain ⟨values, _read, same⟩ := bind_eq_ok.mp unpacked
  cases same
  rcases setAll_names found with impossible | member
  · cases impossible
  · have second := (List.of_mem_zip member).2
    obtain ⟨single, _present, same⟩ := List.mem_map.mp second
    exact ⟨single, same.symm⟩

theorem singleItems_of_roundTrips {className : String}
    (inRange : cls.FieldsInRange self)
    (roundTrips : cls.RoundTrips self className) : cls.SingleItems := by
  intro field member
  obtain ⟨value, found, fits⟩ := inRange field member
  obtain ⟨buf, back, _packed, parsed, same, _data⟩ := roundTrips
  have unpacked : cls.unpack buf = .ok back := packetInit_eq_ok.mp parsed
  rw [← same field member] at found
  obtain ⟨single, scalar⟩ := unpack_scalar unpacked found
  generalize items field.format = list at fits ⊢
  cases fits with
  | scalar inRange => rfl
  | tuple several inRange => cases scalar

theorem single_values {fields : List (HeaderField codes)}
    (inRange : ∀ field ∈ fields, ∃ value, self.attrs field.name = some value ∧
      value.Fits (items field.format))
    (single : ∀ field ∈ fields, (items field.format).length = 1) :
    ∃ values : List codes.Value,
      fieldValues self fields = .ok (values.map FieldValue.scalar) ∧
        List.Forall₂ codes.InRange
          (items (fields.flatMap HeaderField.format)) values ∧
        List.Forall₂
          (fun name value => self.attrs name = some (.scalar value))
          (fields.map HeaderField.name) values := by
  induction fields with
  | nil => exact ⟨[], rfl, .nil, .nil⟩
  | cons field rest ih =>
      rw [List.forall_mem_cons] at inRange single
      obtain ⟨values, read, fits, agree⟩ := ih inRange.2 single.2
      obtain ⟨value, found, fitsFirst⟩ := inRange.1
      obtain ⟨code, codeFirst⟩ := List.length_eq_one_iff.mp single.1
      rw [codeFirst] at fitsFirst
      cases fitsFirst with
      | tuple several inRange => exact absurd rfl several
      | scalar first =>
          rename_i given
          refine ⟨given :: values, ?_, ?_, .cons found agree⟩
          · rw [fieldValues, found]
            dsimp only
            rw [read, ok_bind]
            rfl
          · unfold items at codeFirst ⊢
            rw [List.flatMap_cons, List.filterMap_append, codeFirst]
            exact .cons first fits

/-- The attributes that `unpack` sets from the values of an object are that
object's. -/
theorem unpacked_attrs {names : List PyStr} {values : List codes.Value}
    (agree : List.Forall₂
      (fun name value => self.attrs name = some (.scalar value)) names values)
    {name : PyStr} (member : name ∈ names) :
    setAll (fun _name => none) (names.zip (values.map FieldValue.scalar)) name =
      self.attrs name := by
  apply setAll_agrees
  · clear member
    intro pair paired
    induction agree with
    | nil => cases paired
    | cons first others ih =>
        rcases List.mem_cons.mp paired with here | later
        · rw [here]
          exact first
        · exact ih later
  · left
    induction agree with
    | nil => cases member
    | cons first others ih =>
        rename_i value _names _values
        rcases List.mem_cons.mp member with here | later
        · rw [here]
          exact ⟨.scalar value, List.mem_cons_self⟩
        · obtain ⟨other, present⟩ := ih later
          exact ⟨other, List.mem_cons_of_mem _ present⟩

theorem roundTrips_of_singleItems {className : String}
    (inRange : cls.FieldsInRange self) (single : cls.SingleItems) :
    cls.RoundTrips self className := by
  obtain ⟨values, read, fits, agree⟩ := single_values inRange single
  obtain ⟨header, packed, length, unpacked⟩ := structPack_inRange fits
  change structPack cls.hdrFmt (values.map .scalar) = .ok header at packed
  change header.length = cls.hdrLen at length
  change structUnpack cls.hdrFmt header = .ok values at unpacked
  have packs : cls.packHdr self = .ok header := by
    unfold packHdr
    rw [read, ok_bind, packed]
  have reads : cls.unpack (header ++ self.data) = .ok
      { attrs := setAll (fun _name => none)
          ((cls.hdr.map HeaderField.name).zip (values.map FieldValue.scalar))
        data := self.data } := by
    unfold unpack
    rw [List.take_left' length, unpacked, ok_bind, List.drop_left' length]
  refine ⟨header ++ self.data, _, ?_, packetInit_eq_ok.mpr reads, ?_, rfl⟩
  · unfold bytes
    rw [packs, ok_bind]
  · intro field member
    exact unpacked_attrs agree (List.mem_map_of_mem member)

/-- A header comes back when each of its formats takes one value, and then
only: `unpack` pairs the names with the values of the characters. -/
theorem header_round_trip_iff (cls : PacketClass codes) (className : String)
    (fields : List (PyStr × FieldValue codes)) (data : Bytes)
    (inRange : cls.FieldsInRange (cls.create fields data)) :
    cls.RoundTrips (cls.create fields data) className ↔ cls.SingleItems := by
  constructor
  · intro roundTrips
    exact singleItems_of_roundTrips inRange roundTrips
  · intro single
    exact roundTrips_of_singleItems inRange single

end PacketClass

/-! ### Big-endian unsigned integers and strings -/

/-- `'B'`, `'H'`, `'I'` and `'Q'` by their widths, and `'<size>s'`. -/
inductive StandardCode where
  | unsigned (width : Nat)
  | string (size : Nat)

inductive StandardValue where
  | int (value : Int)
  | bytes (value : Bytes)

namespace StandardCode

def size : StandardCode → Nat
  | .unsigned width => width
  | .string size => size

def InRange : StandardCode → StandardValue → Prop
  | .unsigned width, .int value => 0 ≤ value ∧ value.toNat < 256 ^ width
  | .string size, .bytes value => value.length = size
  | _, _ => False

def pack : StandardCode → StandardValue → Except PyError Bytes
  | .unsigned width, .int value =>
      if 0 ≤ value then packBe width value.toNat else .error .structError
  | .string size, .bytes value => .ok (packString size value)
  | _, _ => .error .structError

def unpack : StandardCode → Bytes → StandardValue
  | .unsigned _, bytes => .int (beNat bytes)
  | .string _, bytes => .bytes bytes

theorem packs {code : StandardCode} {value : StandardValue}
    (inRange : code.InRange value) :
    ∃ bytes, code.pack value = .ok bytes ∧ bytes.length = code.size ∧
      code.unpack bytes = value := by
  cases code with
  | unsigned width =>
      cases value with
      | bytes value => cases inRange
      | int value =>
          obtain ⟨positive, fits⟩ := inRange
          refine ⟨beBytes width value.toNat, ?_, beBytes_length width _, ?_⟩
          · rw [pack, if_pos positive, packBe, if_pos fits]
          · rw [unpack, beNat_beBytes fits, Int.toNat_of_nonneg positive]
  | string size =>
      cases value with
      | int value => cases inRange
      | bytes value =>
          change value.length = size at inRange
          refine ⟨value, ?_, inRange, rfl⟩
          rw [pack, packString, List.take_left' inRange]

end StandardCode

def standardCodes : StructCodes where
  Code := StandardCode
  Value := StandardValue
  size := StandardCode.size
  InRange := StandardCode.InRange
  pack := StandardCode.pack
  packTuple := fun _code _values => .error .structError
  unpack := StandardCode.unpack
  packs := fun _code _value inRange => StandardCode.packs inRange

theorem int_inRange {width value : Nat} (fits : value < 256 ^ width) :
    standardCodes.InRange (.unsigned width) (.int value) :=
  ⟨Int.natCast_nonneg value, fits⟩

def docClass : PacketClass standardCodes where
  hdr :=
    [⟨"foo".toList, [.item (.unsigned 4)], .scalar (.int 1)⟩,
     ⟨"bar".toList, [.item (.unsigned 2)], .scalar (.int 2)⟩,
     ⟨"baz".toList, [.item (.string 4)],
       .scalar (.bytes [0x71, 0x75, 0x75, 0x78])⟩]
  withoutData := by decide

def tupleClass : PacketClass standardCodes where
  hdr :=
    [⟨"bar".toList, [.item (.unsigned 4), .item (.unsigned 4)],
      .tuple [.int 1, .int 2]⟩]
  withoutData := by decide

namespace PacketClass

theorem docClass_round_trips :
    docClass.RoundTrips
      (docClass.create [("bar".toList, .scalar (.int 3))] [0xff]) "Foo" := by
  apply (header_round_trip_iff docClass "Foo" _ _ ?_).mpr
  · intro field member
    fin_cases member <;> rfl
  · intro field member
    fin_cases member
    · exact ⟨.scalar (.int 1), rfl, .scalar (int_inRange (by decide))⟩
    · exact ⟨.scalar (.int 3), rfl, .scalar (int_inRange (by decide))⟩
    · exact ⟨.scalar (.bytes [0x71, 0x75, 0x75, 0x78]), rfl, .scalar rfl⟩

theorem tuple_does_not_come_back :
    ¬ ∀ (codes : StructCodes) (cls : PacketClass codes) (className : String)
      (fields : List (PyStr × FieldValue codes)) (data : Bytes),
      cls.FieldsInRange (cls.create fields data) →
        cls.RoundTrips (cls.create fields data) className := by
  intro always
  have inRange : tupleClass.FieldsInRange (tupleClass.create [] []) := by
    intro field member
    rcases List.mem_singleton.mp member with rfl
    refine ⟨.tuple [.int 1, .int 2], rfl, .tuple (by decide) ?_⟩
    exact .cons (int_inRange (by decide))
      (.cons (int_inRange (by decide)) .nil)
  have single := singleItems_of_roundTrips inRange
    (always standardCodes tupleClass "Foo" [] [] inRange)
  have one := single _ (List.mem_singleton.mpr rfl)
  cases one

end PacketClass

end DpktNg.Packet
