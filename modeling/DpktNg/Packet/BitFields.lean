/-
The bit fields of a packet class, dpkt/dpkt.py.  `_MetaPacket` makes a property
of every public field in `__bit_fields__`; the properties share one header
field, the placeholder.
-/

import DpktNg.Library.BitFields
import DpktNg.Library.Machine
import DpktNg.Python.Error

namespace DpktNg.Packet

open Library Library.BitFields

/-- `(bf_name, bf_size)` -/
structure BitField where
  name : PyStr
  size : Nat
deriving DecidableEq, Repr

def BitField.Private (self : BitField) : Prop := self.name.head? = some '_'

instance (self : BitField) : Decidable self.Private :=
  inferInstanceAs (Decidable (_ = _))

def bitsTotal (fieldDefs : List BitField) : Nat :=
  (fieldDefs.map BitField.size).sum

/-- A placeholder of the header and its entry in `__bit_fields__`.  The sum of
the sizes is asserted when the class is made. -/
structure Layout where
  phName : PyStr
  phSize : Nat
  phDefault : Int
  fieldDefs : List BitField
  distinct : (fieldDefs.map BitField.name).Nodup
  positive : ∀ field ∈ fieldDefs, 0 < field.size
  asserted : bitsTotal fieldDefs = 8 * phSize

/-- `value & mask` for a mask that is not negative. -/
def bitAnd (value : Int) (mask : Nat) : Nat := (Int.land value mask).toNat

/-- What the getter, the setter and the delete function of a property close
over. -/
structure Property where
  bfName : PyStr
  shift : Nat
  mask : Nat
  maskInv : Nat
  maxVal : Nat
  bfDefault : Nat
deriving DecidableEq, Repr

/-- The loop over the field definitions, from `bits_used` on. -/
def makeProperties (total : Nat) (phDefault : Int) :
    Nat → List BitField → List Property
  | _, [] => []
  | used, field :: rest =>
      if field.Private then
        makeProperties total phDefault (used + field.size) rest
      else
        let shift := total - used - field.size
        let mask := (2 ^ field.size - 1) <<< shift
        { bfName := field.name
          shift
          mask
          maskInv := (2 ^ total - 1) - mask
          maxVal := 2 ^ field.size
          bfDefault := bitAnd phDefault mask >>> shift } ::
          makeProperties total phDefault (used + field.size) rest

def Property.getter (self : Property) (phVal : Int) : Nat :=
  bitAnd phVal self.mask >>> self.shift

/-- `'value %s is too large for field %s' % (bf_val, bf_name)` -/
def tooLarge (bfVal : Nat) (bfName : PyStr) : PyError :=
  .other "ValueError" ("value ".toList ++ decimal bfVal ++
    " is too large for field ".toList ++ bfName)

def Property.setter (self : Property) (phVal : Int) (bfVal : Nat) :
    Except PyError Int :=
  if bfVal ≥ self.maxVal then .error (tooLarge bfVal self.bfName)
  else .ok (((bfVal <<< self.shift) ||| bitAnd phVal self.maskInv : Nat) : Int)

namespace Layout

variable (layout : Layout)

def total : Nat := bitsTotal layout.fieldDefs

def properties : List Property :=
  makeProperties layout.total layout.phDefault 0 layout.fieldDefs

def property? (name : PyStr) : Option Property :=
  layout.properties.find? fun property => property.bfName = name

/-- Giving the placeholder its first value, in `__init__` or `unpack`.  A
property of the placeholder's own name is called instead, which calls itself
without end. -/
def construct (value : Int) : Except PyError Int :=
  match layout.property? layout.phName with
  | none => .ok value
  | some _ => .error (.other "RecursionError" [])

/-- Assigning to an attribute, or deleting it. -/
inductive Op where
  | set (name : PyStr) (value : Nat)
  | delete (name : PyStr)
deriving DecidableEq, Repr

def Op.name : Op → PyStr
  | .set name _ => name
  | .delete name => name

/-- `setattr(self, name, value)` for the name of a property. -/
def setattr (phVal : Int) (name : PyStr) (value : Nat) : Except PyError Int :=
  match layout.property? name with
  | none => .error .attributeError
  | some property => property.setter phVal value

/-- The delete function assigns the default. -/
def perform (phVal : Int) : Op → Except PyError Int
  | .set name value => layout.setattr phVal name value
  | .delete name =>
      match layout.property? name with
      | none => .error .attributeError
      | some property => layout.setattr phVal name property.bfDefault

def getattr (phVal : Int) (name : PyStr) : Option Nat :=
  (layout.property? name).map fun property => property.getter phVal

/-- Operations one after another: an error leaves the placeholder as it is. -/
def machine : Machine Int Op (Option PyError) where
  step phVal op :=
    match layout.perform phVal op with
    | .ok phVal' => (phVal', none)
    | .error problem => (phVal, some problem)

end Layout

theorem testBit_bitAnd (value : Int) (mask index : Nat) :
    (bitAnd value mask).testBit index =
      (Int.testBit value index && mask.testBit index) := by
  have bits := Int.testBit_land value mask index
  have natural : Int.land value mask = (bitAnd value mask : Nat) := by
    unfold bitAnd
    cases value with
    | ofNat n => rfl
    | negSucc n => rfl
  rw [natural] at bits
  exact bits

/-- The bits of the placeholder below `total`. -/
def word (total : Nat) (phVal : Int) : Nat := bitAnd phVal (2 ^ total - 1)

theorem bitAnd_eq {total mask : Nat} (small : mask < 2 ^ total) (phVal : Int) :
    bitAnd phVal mask = word total phVal &&& mask := by
  apply Nat.eq_of_testBit_eq
  intro index
  unfold word
  rw [Nat.testBit_and, testBit_bitAnd, testBit_bitAnd,
    Nat.testBit_two_pow_sub_one]
  by_cases inside : index < total
  · rw [decide_eq_true inside, Bool.and_true]
  · have clear : mask.testBit index = false :=
      Nat.testBit_lt_two_pow (lt_of_lt_of_le small
        (Nat.pow_le_pow_right (by omega) (by omega)))
    rw [clear, Bool.and_false, Bool.and_false]

theorem word_natCast {total value : Nat} (small : value < 2 ^ total) :
    word total (value : Int) = value := by
  change value &&& (2 ^ total - 1) = value
  exact Nat.and_two_pow_sub_one_of_lt_two_pow small

/-- The property that the loop makes of a field. -/
def propertyOf (total : Nat) (phDefault : Int) (shift : Nat)
    (field : BitField) : Property where
  bfName := field.name
  shift := shift
  mask := mask shift field.size
  maskInv := (2 ^ total - 1) - mask shift field.size
  maxVal := 2 ^ field.size
  bfDefault := bitAnd phDefault (mask shift field.size) >>> shift

/-- The public field at a place has a property that is shifted by the sizes of
the fields behind it. -/
theorem find_property {total : Nat} {phDefault : Int} {used : Nat}
    {upper lower : List BitField} {field : BitField}
    (distinct : ((upper ++ field :: lower).map BitField.name).Nodup)
    (whole : used + bitsTotal (upper ++ field :: lower) = total)
    (visible : ¬field.Private) :
    (makeProperties total phDefault used (upper ++ field :: lower)).find?
        (fun property => property.bfName = field.name) =
      some (propertyOf total phDefault (bitsTotal lower) field) := by
  induction upper generalizing used with
  | nil =>
      have shift : total - used - field.size = bitsTotal lower := by
        unfold bitsTotal at whole ⊢
        rw [List.nil_append, List.map_cons, List.sum_cons] at whole
        omega
      rw [List.nil_append, makeProperties, if_neg visible]
      dsimp only
      rw [shift, List.find?_cons_of_pos (by simp)]
      rfl
  | cons first rest ih =>
      rw [List.cons_append, List.map_cons, List.nodup_cons] at distinct
      have others : used + first.size +
          bitsTotal (rest ++ field :: lower) = total := by
        unfold bitsTotal at whole ⊢
        rw [List.cons_append, List.map_cons, List.sum_cons] at whole
        omega
      have different : first.name ≠ field.name := by
        intro same
        apply distinct.1
        rw [same]
        exact List.mem_map_of_mem (by simp)
      rw [List.cons_append, makeProperties]
      split
      · exact ih distinct.2 others
      · dsimp only
        rw [List.find?_cons_of_neg (by simpa using different)]
        exact ih distinct.2 others

namespace Layout

variable (layout : Layout)

def view (phVal : Int) : List Nat :=
  values (layout.fieldDefs.map BitField.size) (word layout.total phVal)

/-- The field definitions, split around one of them. -/
structure At (field : BitField) (index : Nat) where
  upper : List BitField
  lower : List BitField
  split : layout.fieldDefs = upper ++ field :: lower
  length : upper.length = index

theorem exists_at {field : BitField} {index : Nat}
    (present : layout.fieldDefs[index]? = some field) :
    Nonempty (layout.At field index) := by
  obtain ⟨inside, found⟩ := List.getElem?_eq_some_iff.mp present
  refine ⟨⟨layout.fieldDefs.take index, layout.fieldDefs.drop (index + 1),
    ?_, ?_⟩⟩
  · rw [← found, ← List.drop_eq_getElem_cons inside, List.take_append_drop]
  · rw [List.length_take]
    omega

variable {layout} {field : BitField} {index : Nat}

namespace At

variable (place : layout.At field index)

def shift : Nat := bitsTotal place.lower

theorem inside : place.shift + field.size ≤ layout.total := by
  unfold shift Layout.total bitsTotal
  rw [place.split, List.map_append, List.map_cons, List.sum_append,
    List.sum_cons]
  omega

theorem property_eq (visible : ¬field.Private) :
    layout.property? field.name =
      some (propertyOf layout.total layout.phDefault place.shift field) := by
  have distinct := layout.distinct
  have whole : 0 + bitsTotal layout.fieldDefs = layout.total := Nat.zero_add _
  unfold property? properties
  rw [place.split] at distinct whole ⊢
  exact find_property distinct whole visible

theorem view_overwrite (phVal : Int) {value : Nat}
    (fits : value < 2 ^ field.size) :
    layout.view (overwrite layout.total place.shift field.size value
        (word layout.total phVal) : Nat) =
      (layout.view phVal).set index value := by
  have below := overwrite_lt (word layout.total phVal) place.inside fits
  have inside : ((place.upper.map BitField.size) ++ field.size ::
      (place.lower.map BitField.size)).sum ≤ layout.total := by
    unfold Layout.total bitsTotal
    rw [place.split, List.map_append, List.map_cons]
  unfold view
  rw [word_natCast below, place.split, List.map_append, List.map_cons]
  have replaced := values_overwrite (word layout.total phVal) inside fits
  rw [List.length_map, place.length] at replaced
  exact replaced

theorem view_getElem (phVal : Int) :
    (layout.view phVal)[index]? =
      some (BitFields.field place.shift field.size
        (word layout.total phVal)) := by
  have parts : ∀ (upper : List Nat) (width : Nat) (lower : List Nat) (w : Nat),
      (values (upper ++ width :: lower) w)[upper.length]? =
        some (BitFields.field lower.sum width w) := by
    intro upper width lower w
    induction upper with
    | nil => rfl
    | cons first rest ih => exact ih
  have here := parts (place.upper.map BitField.size) field.size
    (place.lower.map BitField.size) (word layout.total phVal)
  rw [List.length_map, place.length] at here
  unfold view
  rw [place.split, List.map_append, List.map_cons]
  exact here

theorem getattr_eq (place : layout.At field index)
    (visible : ¬field.Private) (phVal : Int) :
    layout.getattr phVal field.name = (layout.view phVal)[index]? := by
  unfold getattr
  rw [place.property_eq visible, place.view_getElem, Option.map_some]
  unfold Property.getter propertyOf
  dsimp only
  rw [bitAnd_eq (mask_lt place.inside), mask_shiftRight]

theorem setattr_fits (visible : ¬field.Private) (phVal : Int) {value : Nat}
    (fits : value < 2 ^ field.size) :
    layout.setattr phVal field.name value =
      .ok (overwrite layout.total place.shift field.size value
        (word layout.total phVal) : Nat) := by
  have inverse : (2 ^ layout.total - 1) - mask place.shift field.size <
      2 ^ layout.total := by
    have positive := Nat.two_pow_pos layout.total
    omega
  unfold setattr
  rw [place.property_eq visible]
  unfold Property.setter propertyOf
  dsimp only
  rw [if_neg (by omega), bitAnd_eq inverse]
  rfl

theorem setattr_large (place : layout.At field index)
    (visible : ¬field.Private) (phVal : Int) {value : Nat}
    (large : 2 ^ field.size ≤ value) :
    layout.setattr phVal field.name value =
      .error (tooLarge value field.name) := by
  unfold setattr
  rw [place.property_eq visible]
  unfold Property.setter
  exact if_pos large

/-- The default of a property is the field's value in the placeholder's
default. -/
theorem default_eq :
    (propertyOf layout.total layout.phDefault place.shift field).bfDefault =
      BitFields.field place.shift field.size
        (word layout.total layout.phDefault) := by
  unfold propertyOf
  dsimp only
  rw [bitAnd_eq (mask_lt place.inside), mask_shiftRight]

theorem perform_delete (visible : ¬field.Private) (phVal : Int) :
    layout.perform phVal (.delete field.name) =
      .ok (overwrite layout.total place.shift field.size
        (BitFields.field place.shift field.size
          (word layout.total layout.phDefault))
        (word layout.total phVal) : Nat) := by
  unfold perform
  dsimp only
  rw [place.property_eq visible]
  dsimp only
  rw [place.default_eq]
  exact place.setattr_fits visible phVal (field_lt _ _ _)

end At

variable (layout)

/-- One field has got a new value, all others have kept theirs. -/
structure Assigned (index : Nat) (name : PyStr) (value : Nat)
    (phVal phVal' : Int) : Prop where
  bounded : 0 ≤ phVal' ∧ phVal' < 2 ^ layout.total
  readsBack : layout.getattr phVal' name = some value
  others : layout.view phVal' = (layout.view phVal).set index value

/-- What an operation on a public field does to the placeholder, and what it
raises. -/
def Expected (phVal : Int) (index : Nat) (field : BitField) :
    Op → Int × Option PyError → Prop
  | .set name value, (phVal', raised) =>
      if value < 2 ^ field.size then
        raised = none ∧ layout.Assigned index name value phVal phVal'
      else
        raised = some (tooLarge value name) ∧ phVal' = phVal
  | .delete name, (phVal', raised) =>
      raised = none ∧
        ∃ value, (layout.view layout.phDefault)[index]? = some value ∧
          layout.Assigned index name value phVal phVal'

variable {layout}

theorem At.assigned (place : layout.At field index) (visible : ¬field.Private)
    (phVal : Int) {value : Nat} (fits : value < 2 ^ field.size) :
    layout.Assigned index field.name value phVal
      (overwrite layout.total place.shift field.size value
        (word layout.total phVal) : Nat) := by
  have below := overwrite_lt (word layout.total phVal) place.inside fits
  constructor
  · constructor
    · exact Int.natCast_nonneg _
    · exact_mod_cast below
  · rw [place.getattr_eq visible, place.view_getElem, word_natCast below,
      field_overwrite_same _ place.inside fits]
  · exact place.view_overwrite phVal fits

theorem step_expected (phVal : Int) {op : Op}
    (present : layout.fieldDefs[index]? = some field)
    (named : field.name = op.name) (visible : ¬field.Private) :
    layout.Expected phVal index field op (layout.machine.step phVal op) := by
  obtain ⟨place⟩ := layout.exists_at present
  cases op with
  | set name value =>
      change field.name = name at named
      rw [← named]
      unfold Expected machine perform
      dsimp only
      by_cases fits : value < 2 ^ field.size
      · rw [place.setattr_fits visible phVal fits]
        dsimp only
        rw [if_pos fits]
        exact ⟨rfl, place.assigned visible phVal fits⟩
      · rw [place.setattr_large visible phVal (Nat.le_of_not_lt fits)]
        dsimp only
        rw [if_neg fits]
        exact ⟨rfl, rfl⟩
  | delete name =>
      change field.name = name at named
      rw [← named]
      unfold Expected machine
      dsimp only
      rw [place.perform_delete visible phVal]
      exact ⟨rfl, _, place.view_getElem layout.phDefault,
        place.assigned visible phVal (field_lt _ _ _)⟩

/-- The fields are independent: after any operations on an instance, the next
one does to its field what it should and nothing to the others, and the getters
of all public fields show the values. -/
theorem bit_fields_independent (layout : Layout) (start phVal : Int)
    (_constructed : layout.construct start = .ok phVal) (ops : List Op)
    (op : Op) (index : Nat) (field : BitField)
    (present : layout.fieldDefs[index]? = some field)
    (named : field.name = op.name) (visible : ¬field.Private) :
    layout.Expected (layout.machine.run phVal ops) index field op
        (layout.machine.step (layout.machine.run phVal ops) op) ∧
      ∀ (other : Nat) (shown : BitField), layout.fieldDefs[other]? = some shown →
        ¬shown.Private → ∀ value : Int,
          layout.getattr value shown.name = (layout.view value)[other]? := by
  constructor
  · exact step_expected _ present named visible
  · intro other shown there unhidden value
    obtain ⟨place⟩ := layout.exists_at there
    exact place.getattr_eq unhidden value

/-- A byte of a private bit, a field of two bits and one of five bits. -/
def threeFields : Layout where
  phName := "_flags".toList
  phSize := 1
  phDefault := 0x41
  fieldDefs := [⟨"_rsv".toList, 1⟩, ⟨"kind".toList, 2⟩, ⟨"count".toList, 5⟩]
  distinct := by decide
  positive := by decide
  asserted := by decide

theorem threeFields_delete :
    threeFields.Expected
        (threeFields.machine.run (-1) [.set "count".toList 3]) 1
        ⟨"kind".toList, 2⟩ (.delete "kind".toList)
        (threeFields.machine.step
          (threeFields.machine.run (-1) [.set "count".toList 3])
          (.delete "kind".toList)) ∧
      ∀ (other : Nat) (shown : BitField),
        threeFields.fieldDefs[other]? = some shown → ¬shown.Private →
          ∀ value : Int, threeFields.getattr value shown.name =
            (threeFields.view value)[other]? :=
  bit_fields_independent threeFields (-1) (-1) (by decide +kernel) _ _ 1 _ rfl
    rfl (by decide)

example : threeFields.machine.run (-1)
    [.set "count".toList 3, .set "kind".toList 4, .delete "kind".toList] =
      0xc3 := by decide +kernel

end Layout

end DpktNg.Packet
