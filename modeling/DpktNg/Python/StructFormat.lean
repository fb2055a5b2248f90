/-
Formats of the `struct` module with integers and byte strings, each with the
item that its values stand for.
-/

import DpktNg.Python.ByteOrder

namespace DpktNg

open Library

/-- An unsigned integer of some bytes, or `'<size>s'`. -/
inductive StructItem where
  | int (width : Nat)
  | str (size : Nat)
deriving DecidableEq, Repr

abbrev StructItem.Value : StructItem → Type
  | .int _ => Nat
  | .str _ => Bytes

/-- The values of a format, one for each item. -/
abbrev StructValues : List StructItem → Type
  | [] => Unit
  | item :: rest => item.Value × StructValues rest

namespace StructItem

def size : StructItem → Nat
  | .int width => width
  | .str size => size

/-- The value is packed without loss. -/
def Fits : (item : StructItem) → item.Value → Prop
  | .int width, value => value < 256 ^ width
  | .str size, bytes => bytes.length = size

instance : (item : StructItem) → (value : item.Value) →
    Decidable (item.Fits value)
  | .int width, value => inferInstanceAs (Decidable (value < 256 ^ width))
  | .str size, bytes => inferInstanceAs (Decidable (bytes.length = size))

def pack (order : ByteOrder) :
    (item : StructItem) → item.Value → Except PyError Bytes
  | .int width, value => do .ok (order.arrange (← packBe width value))
  | .str size, bytes => .ok (packString size bytes)

def read (order : ByteOrder) : (item : StructItem) → Bytes → item.Value
  | .int _, bytes => order.nat bytes
  | .str _, bytes => bytes

def bytes (order : ByteOrder) : (item : StructItem) → item.Value → Bytes
  | .int width, value => order.arrange (beBytes width value)
  | .str _, bytes => bytes

end StructItem

namespace StructValues

def size (items : List StructItem) : Nat := (items.map StructItem.size).sum

def Fits : (items : List StructItem) → StructValues items → Prop
  | [], _ => True
  | item :: rest, values => item.Fits values.1 ∧ Fits rest values.2

instance : (items : List StructItem) → (values : StructValues items) →
    Decidable (Fits items values)
  | [], _ => inferInstanceAs (Decidable True)
  | item :: rest, values =>
      let _ : Decidable (Fits rest values.2) :=
        instDecidableFits rest values.2
      inferInstanceAs (Decidable (item.Fits values.1 ∧ Fits rest values.2))

def pack (order : ByteOrder) :
    (items : List StructItem) → StructValues items → Except PyError Bytes
  | [], _ => .ok []
  | item :: rest, values => do
      let first ← item.pack order values.1
      let others ← pack order rest values.2
      .ok (first ++ others)

def read (order : ByteOrder) :
    (items : List StructItem) → Bytes → StructValues items
  | [], _ => ()
  | item :: rest, bytes =>
      (item.read order (bytes.take item.size),
        read order rest (bytes.drop item.size))

def bytes (order : ByteOrder) :
    (items : List StructItem) → StructValues items → Bytes
  | [], _ => []
  | item :: rest, values =>
      item.bytes order values.1 ++ bytes order rest values.2

end StructValues

namespace StructItem

variable {order : ByteOrder} {item : StructItem} {value : item.Value}

theorem bytes_length (fits : item.Fits value) :
    (item.bytes order value).length = item.size := by
  cases item with
  | int width =>
      change (order.arrange (beBytes width value)).length = width
      rw [order.arrange_length, beBytes_length]
  | str size => exact fits

theorem pack_ok (fits : item.Fits value) :
    item.pack order value = .ok (item.bytes order value) := by
  cases item with
  | int width =>
      change (packBe width value >>= _) = _
      rw [packBe_ok fits]
      rfl
  | str size =>
      change Except.ok (packString size value) = .ok value
      unfold packString
      rw [List.take_left' fits]

theorem read_bytes (fits : item.Fits value) :
    item.read order (item.bytes order value) = value := by
  cases item with
  | int width =>
      change order.nat (order.arrange (beBytes width value)) = value
      rw [order.nat_arrange, beNat_beBytes fits]
  | str size => rfl

theorem read_fits {bytes : Bytes} (length : bytes.length = item.size) :
    item.Fits (item.read order bytes) := by
  cases item with
  | int width =>
      have bound := beNat_lt (order.arrange bytes)
      rw [order.arrange_length, length] at bound
      exact bound
  | str size => exact length

theorem bytes_read {bytes : Bytes} (length : bytes.length = item.size) :
    item.bytes order (item.read order bytes) = bytes := by
  cases item with
  | int width =>
      have again := beBytes_beNat (order.arrange bytes)
      rw [order.arrange_length, length] at again
      change order.arrange (beBytes width (order.nat bytes)) = bytes
      rw [show beBytes width (order.nat bytes) = _ from again,
        order.arrange_arrange]
  | str size => rfl

end StructItem

namespace StructValues

variable {order : ByteOrder} {items : List StructItem}
  {values : StructValues items}

theorem bytes_length (fits : Fits items values) :
    (bytes order items values).length = size items := by
  induction items with
  | nil => rfl
  | cons item rest ih =>
      have first : (item.bytes order values.1).length = item.size :=
        StructItem.bytes_length fits.1
      rw [bytes, List.length_append, first, ih fits.2]
      rfl

theorem pack_ok (fits : Fits items values) :
    pack order items values = .ok (bytes order items values) := by
  induction items with
  | nil => rfl
  | cons item rest ih =>
      rw [pack, StructItem.pack_ok fits.1, ok_bind, ih fits.2, ok_bind]
      rfl

theorem read_bytes (fits : Fits items values) (behind : Bytes) :
    read order items (bytes order items values ++ behind) = values := by
  induction items with
  | nil => rfl
  | cons item rest ih =>
      have first : (item.bytes order values.1).length = item.size :=
        StructItem.bytes_length fits.1
      rw [read, bytes, List.append_assoc, List.take_left' first,
        List.drop_left' first, StructItem.read_bytes fits.1, ih fits.2]

theorem read_fits {source : Bytes}
    (enough : size items ≤ source.length) :
    Fits items (read order items source) := by
  induction items generalizing source with
  | nil => trivial
  | cons item rest ih =>
      have sizes : size (item :: rest) = item.size + size rest := rfl
      refine ⟨StructItem.read_fits ?_, ih ?_⟩
      · rw [List.length_take]
        omega
      · rw [List.length_drop]
        omega

theorem bytes_read {source : Bytes}
    (enough : size items ≤ source.length) :
    bytes order items (read order items source) =
      source.take (size items) := by
  induction items generalizing source with
  | nil => rfl
  | cons item rest ih =>
      have sizes : size (item :: rest) = item.size + size rest := rfl
      have first : (source.take item.size).length = item.size := by
        rw [List.length_take]
        omega
      have others : size rest ≤ (source.drop item.size).length := by
        rw [List.length_drop]
        omega
      rw [bytes, read, StructItem.bytes_read first, ih others, sizes,
        List.take_add]

end StructValues

def StructItem.isInt : StructItem → Bool
  | .int _ => true
  | .str _ => false

theorem StructValues.fits_of_pack {order : ByteOrder}
    {items : List StructItem} {values : StructValues items} {packed : Bytes}
    (ints : ∀ item ∈ items, item.isInt = true)
    (packs : pack order items values = .ok packed) : Fits items values := by
  induction items generalizing packed with
  | nil => trivial
  | cons item rest ih =>
      rw [List.forall_mem_cons] at ints
      obtain ⟨first, packedFirst, behind⟩ := bind_eq_ok.mp packs
      obtain ⟨others, packedRest, _same⟩ := bind_eq_ok.mp behind
      refine ⟨?_, ih ints.2 packedRest⟩
      cases item with
      | int width =>
          obtain ⟨field, packedField, _arranged⟩ := bind_eq_ok.mp packedFirst
          exact (packBe_eq_ok packedField).1
      | str size => cases ints.1

/-- The value is found in the buffer from `start` on. -/
def StructItem.StandsAt (order : ByteOrder) (buf : Bytes) (start : Nat) :
    (item : StructItem) → item.Value → Prop
  | .int width, value =>
      order.unpackInt width (cut buf start (start + width)) = .ok value
  | .str size, bytes => cut buf start (start + size) = bytes

/-- Each value is found at its place, from `start` on. -/
def StructValues.StandAt (order : ByteOrder) (buf : Bytes) :
    (items : List StructItem) → Nat → StructValues items → Prop
  | [], _, _ => True
  | item :: rest, start, values =>
      item.StandsAt order buf start values.1 ∧
        StandAt order buf rest (start + item.size) values.2

theorem StructItem.standsAt_bytes {order : ByteOrder} {item : StructItem}
    {value : item.Value} (fits : item.Fits value) {front : Bytes} {start : Nat}
    (length : front.length = start) (behind : Bytes) :
    item.StandsAt order (front ++ (item.bytes order value ++ behind)) start
      value := by
  have here : cut (front ++ (item.bytes order value ++ behind)) start
      (start + item.size) = item.bytes order value := by
    rw [← List.append_assoc]
    exact cut_middle length (by rw [StructItem.bytes_length fits]) behind
  cases item with
  | int width =>
      change order.unpackInt width (cut _ start (start + width)) = .ok value
      rw [show cut _ start (start + width) = _ from here]
      exact order.unpackInt_arrange fits
  | str size => exact here

theorem StructValues.standAt_bytes {order : ByteOrder}
    {items : List StructItem} {values : StructValues items}
    (fits : Fits items values) {front : Bytes} {start : Nat}
    (length : front.length = start) (behind : Bytes) :
    StandAt order (front ++ (bytes order items values ++ behind)) items start
      values := by
  induction items generalizing front start with
  | nil => trivial
  | cons item rest ih =>
      have first : (item.bytes order values.1).length = item.size :=
        StructItem.bytes_length fits.1
      have further : (front ++ item.bytes order values.1).length =
          start + item.size := by
        rw [List.length_append, length, first]
      rw [bytes, List.append_assoc]
      refine ⟨StructItem.standsAt_bytes fits.1 length _, ?_⟩
      rw [← List.append_assoc]
      exact ih fits.2 further

theorem StructValues.packed (order : ByteOrder) {items : List StructItem}
    {values : StructValues items} (fits : Fits items values) :
    ∃ packed, pack order items values = .ok packed ∧
      packed.length = size items ∧
      ∀ {front : Bytes} {start : Nat} (behind : Bytes), front.length = start →
        StandAt order (front ++ (packed ++ behind)) items start values :=
  ⟨bytes order items values, pack_ok fits, bytes_length fits,
    fun behind length => standAt_bytes fits length behind⟩

/-- A format with the item that its values stand for. -/
structure StructFormat (α : Type) where
  items : List StructItem
  values : α → StructValues items
  ofValues : StructValues items → α
  ofValues_values : ∀ item, ofValues (values item) = item

namespace StructFormat

variable {α : Type} (format : StructFormat α) (order : ByteOrder)

def size : Nat := StructValues.size format.items

def Fits (item : α) : Prop := StructValues.Fits format.items (format.values item)

instance (item : α) : Decidable (format.Fits item) :=
  inferInstanceAs
    (Decidable (StructValues.Fits format.items (format.values item)))

def pack (item : α) : Except PyError Bytes :=
  StructValues.pack order format.items (format.values item)

def unpack (bytes : Bytes) : Except PyError α :=
  if bytes.length = format.size then
    .ok (format.ofValues (StructValues.read order format.items bytes))
  else .error .structError

def bytes (item : α) : Bytes :=
  StructValues.bytes order format.items (format.values item)

def unpackHdr (buf : Bytes) : Except PyError (α × Bytes) := do
  let header ← format.unpack order (buf.take format.size)
  .ok (header, buf.drop format.size)

/-- `Packet.__init__` of a class that keeps the bytes behind its header. -/
def parsePacket (className : String) (buf : Bytes) :
    Except PyError (α × Bytes) :=
  packetInit className (some format.size) (format.unpackHdr order) buf

/-- `pack_hdr`, whose error is one of the library. -/
def packHdr (item : α) : Except PyError Bytes :=
  match format.pack order item with
  | .ok header => .ok header
  | .error _ => .error (.packError [])

variable {format} {order} {item : α}

theorem bytes_length (fits : format.Fits item) :
    (format.bytes order item).length = format.size :=
  StructValues.bytes_length fits

theorem pack_ok (fits : format.Fits item) :
    format.pack order item = .ok (format.bytes order item) :=
  StructValues.pack_ok fits

theorem unpack_bytes (fits : format.Fits item) :
    format.unpack order (format.bytes order item) = .ok item := by
  have read := @StructValues.read_bytes order _ _ fits []
  rw [List.append_nil] at read
  unfold unpack
  rw [if_pos (bytes_length fits)]
  unfold bytes
  rw [read, format.ofValues_values]

theorem unpackHdr_bytes (fits : format.Fits item) (behind : Bytes) :
    format.unpackHdr order (format.bytes order item ++ behind) =
      .ok (item, behind) := by
  have length : (format.bytes order item).length = format.size :=
    bytes_length fits
  unfold unpackHdr
  rw [List.take_left' length, List.drop_left' length, unpack_bytes fits,
    ok_bind]

theorem parsePacket_bytes (fits : format.Fits item) (className : String)
    (behind : Bytes) :
    format.parsePacket order className (format.bytes order item ++ behind) =
      .ok (item, behind) :=
  packetInit_eq_ok.mpr (unpackHdr_bytes fits behind)

theorem parsePacket_alone (fits : format.Fits item) (className : String) :
    format.parsePacket order className (format.bytes order item) =
      .ok (item, []) := by
  have parsed := @parsePacket_bytes _ format order item fits className []
  rw [List.append_nil] at parsed
  exact parsed

theorem packHdr_ok (fits : format.Fits item) :
    format.packHdr order item = .ok (format.bytes order item) := by
  unfold packHdr
  rw [pack_ok fits]

theorem fits_of_packHdr (ints : ∀ item ∈ format.items, item.isInt = true)
    {hdr : Bytes} (packed : format.packHdr order item = .ok hdr) :
    format.Fits item := by
  unfold packHdr at packed
  split at packed
  · rename_i header packs
    exact StructValues.fits_of_pack ints packs
  · cases packed

theorem packedHdr (order : ByteOrder) (fits : format.Fits item) :
    ∃ hdr, format.packHdr order item = .ok hdr ∧ hdr.length = format.size ∧
      ∀ behind, format.unpackHdr order (hdr ++ behind) = .ok (item, behind) :=
  ⟨format.bytes order item, packHdr_ok fits, bytes_length fits,
    unpackHdr_bytes fits⟩

theorem unpackHdr_eq_ok {buf data : Bytes} :
    format.unpackHdr order buf = .ok (item, data) ↔
      format.size ≤ buf.length ∧
        item = format.ofValues (StructValues.read order format.items
          (buf.take format.size)) ∧
        data = buf.drop format.size := by
  unfold unpackHdr unpack
  split
  · rename_i length
    rw [List.length_take] at length
    rw [ok_bind, Except.ok.injEq, Prod.mk.injEq]
    exact ⟨fun ⟨same, rest⟩ => ⟨by omega, same.symm, rest.symm⟩,
      fun ⟨_enough, same, rest⟩ => ⟨same.symm, rest.symm⟩⟩
  · rename_i length
    rw [List.length_take] at length
    constructor
    · intro impossible
      cases impossible
    · rintro ⟨enough, _same, _rest⟩
      omega

/-- An item holds its values and nothing else. -/
def Exact (format : StructFormat α) : Prop :=
  ∀ values, format.values (format.ofValues values) = values

theorem unpackHdr_fits (isExact : format.Exact) {buf data : Bytes}
    (unpacked : format.unpackHdr order buf = .ok (item, data)) :
    format.Fits item ∧ format.size ≤ buf.length ∧
      data = buf.drop format.size := by
  obtain ⟨enough, same, rest⟩ := unpackHdr_eq_ok.mp unpacked
  refine ⟨?_, enough, rest⟩
  unfold Fits
  rw [same, isExact]
  refine StructValues.read_fits ?_
  rw [List.length_take]
  exact le_min le_rfl enough

theorem repacked (isExact : format.Exact) {buf data : Bytes}
    (unpacked : format.unpackHdr order buf = .ok (item, data)) :
    format.packHdr order item = .ok (buf.take format.size) ∧
      format.size ≤ buf.length ∧ data = buf.drop format.size := by
  obtain ⟨enough, same, rest⟩ := unpackHdr_eq_ok.mp unpacked
  have fits := (unpackHdr_fits isExact unpacked).1
  have length : (buf.take format.size).length = format.size := by
    rw [List.length_take]
    omega
  have values : format.values item = StructValues.read order format.items
      (buf.take format.size) := by
    rw [same]
    exact isExact _
  have whole : StructValues.size format.items ≤
      (buf.take format.size).length := le_of_eq length.symm
  refine ⟨?_, enough, rest⟩
  rw [packHdr_ok fits]
  unfold bytes
  rw [values, StructValues.bytes_read whole]
  exact congrArg Except.ok (List.take_of_length_le (le_of_eq length))

theorem parsePacket_repacked (isExact : format.Exact) {className : String}
    {buf data : Bytes}
    (parsed : format.parsePacket order className buf = .ok (item, data)) :
    format.packHdr order item = .ok (buf.take format.size) ∧
      format.size ≤ buf.length ∧ data = buf.drop format.size :=
  repacked isExact (packetInit_eq_ok.mp parsed)

theorem unpackHdr_raisesOnly (buf : Bytes) :
    RaisesOnly (· = .structError) (format.unpackHdr order buf) := by
  unfold unpackHdr unpack
  split
  · exact raisesOnly_ok _
  · exact raisesOnly_error.mpr rfl

theorem parsePacket_raisesOnly (className : String) (buf : Bytes) :
    RaisesOnly PyError.IsUnpackError
      (format.parsePacket order className buf) :=
  packetInit_raisesOnly fun _problem raised =>
    Or.inl (unpackHdr_raisesOnly buf _ raised)

end StructFormat

end DpktNg
