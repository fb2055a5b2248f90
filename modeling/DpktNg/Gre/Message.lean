/-
Packets of dpkt/gre.py: the header, the optional fields that its flags and its
version select, and the source route entries.

Parsing, `len` and `bytes` each work out the optional fields from the flags;
they agree on them, so a parsed packet is written as it was.
-/

import DpktNg.Packet.Payload
import DpktNg.Python.Loops
import DpktNg.Python.StructFormat

namespace DpktNg.Gre

open Library

def greCP : Nat := 0x8000

def greRP : Nat := 0x4000

def greKP : Nat := 0x2000

def greSP : Nat := 0x1000

def greAP : Nat := 0x0080

/-- The names of optional fields. -/
inductive OptField where
  | sum
  | off
  | key
  | seq
  | ack
  | len
  | callid
deriving DecidableEq, Repr

/-- An entry of `GRE_opt_fields`, with the size of its format character. -/
structure OptFieldDef where
  flags : Nat
  field : OptField
  width : Nat
deriving DecidableEq, Repr

def optFieldTable : List OptFieldDef :=
  [⟨greCP ||| greRP, .sum, 2⟩, ⟨greCP ||| greRP, .off, 2⟩, ⟨greKP, .key, 4⟩,
    ⟨greSP, .seq, 4⟩, ⟨greAP, .ack, 4⟩]

/-- The property `v` -/
def version (flags : Nat) : Nat := flags &&& 0x7

/-- The entries of a table whose flags are set. -/
def selected (flags : Nat) (table : List OptFieldDef) :
    List (OptField × Nat) :=
  (table.filter fun entry => flags &&& entry.flags ≠ 0).map fun entry =>
    (entry.field, entry.width)

def optFieldsFmts (flags : Nat) : List (OptField × Nat) :=
  if version flags = 0 then selected flags optFieldTable
  else (.len, 2) :: (.callid, 2) :: selected flags (optFieldTable.drop 3)

/-- `struct.calcsize` without a byte order: every field begins at a multiple of
its size. -/
def calcsize (widths : List Nat) : Nat :=
  widths.foldl (fun off width => (off + width - 1) / width * width + width) 0

structure SREHeader where
  family : Nat
  off : Nat
  len : Nat
deriving DecidableEq, Repr

def SREHeader.format : StructFormat SREHeader where
  items := [.int 2, .int 1, .int 1]
  values header := (header.family, header.off, header.len, ())
  ofValues := fun (family, off, len, _) => { family, off, len }
  ofValues_values _ := rfl

structure SRE extends SREHeader where
  data : Bytes
deriving DecidableEq, Repr

namespace SRE

def unpack (buf : Bytes) : Except PyError SRE := do
  let (header, data) ← SREHeader.format.unpackHdr .big buf
  .ok { header with data := data.take header.len }

def parse (buf : Bytes) : Except PyError SRE :=
  packetInit "SRE" (some SREHeader.format.size) unpack buf

def size (self : SRE) : Nat := SREHeader.format.size + self.data.length

def bytes (self : SRE) : Except PyError Bytes := do
  .ok ((← SREHeader.format.packHdr .big self.toSREHeader) ++ self.data)

theorem bytes_parse {buf : Bytes} {self : SRE} (parsed : parse buf = .ok self) :
    0 < self.size ∧ self.size ≤ buf.length ∧
      self.bytes = .ok (buf.take self.size) := by
  obtain ⟨⟨header, data⟩, hdr, same⟩ :=
    bind_eq_ok.mp (packetInit_eq_ok.mp parsed)
  cases same
  have isExact : SREHeader.format.Exact := fun _values => rfl
  obtain ⟨packed, enough, rest⟩ := StructFormat.repacked isExact hdr
  have hdrSize : SREHeader.format.size = 4 := rfl
  rw [hdrSize] at packed enough rest
  have within : (data.take header.len).length ≤ buf.length - 4 := by
    rw [rest, List.length_take, List.length_drop]
    omega
  unfold size bytes
  dsimp only
  rw [hdrSize]
  refine ⟨by omega, by omega, ?_⟩
  rw [packed, ok_bind, List.take_add, rest]
  refine congrArg Except.ok (congrArg (buf.take 4 ++ ·) ?_)
  rw [List.length_take, List.take_eq_take_min]

end SRE

/-- `while True`: the entries up to the first one without data, and what stands
behind it. -/
def readSres (data : Bytes) : Except PyError (List SRE × Bytes) :=
  match _read : SRE.parse data with
  | .error problem => .error problem
  | .ok sre =>
      if sre.len = 0 then .ok ([sre], data.drop sre.size)
      else do
        let (sres, behind) ← readSres (data.drop sre.size)
        .ok (sre :: sres, behind)
termination_by data.length
decreasing_by
  obtain ⟨positive, within, _bytes⟩ := SRE.bytes_parse _read
  rw [List.length_drop]
  omega

structure GREHeader where
  flags : Nat
  p : Nat
deriving DecidableEq, Repr

def GREHeader.format : StructFormat GREHeader where
  items := [.int 2, .int 2]
  values header := (header.flags, header.p, ())
  ofValues := fun (flags, p, _) => { flags, p }
  ofValues_values _ := rfl

/-- The optional fields are what `__dict__` was updated with. -/
structure GRE (P : Type) extends GREHeader where
  fields : List (OptField × Nat)
  sre : List SRE
  data : Payload P
deriving DecidableEq, Repr

namespace GRE

variable {P : Type} (registry : Registry P)

def unpackFields (flags : Nat) (data : Bytes) :
    Except PyError (List (OptField × Nat) × Bytes) :=
  let fields := (optFieldsFmts flags).map Prod.fst
  let fmts := (optFieldsFmts flags).map Prod.snd
  if fields = [] then .ok ([], data)
  else do
    let fmtlen := calcsize fmts
    let vals ← DpktNg.unpackFields fmts (data.take fmtlen)
    .ok (fields.zip vals, data.drop fmtlen)

/-- The source route entries, if the flags say that there are any. -/
def unpackSre (flags : Nat) (data : Bytes) :
    Except PyError (List SRE × Bytes) :=
  if flags &&& greRP ≠ 0 then readSres data else .ok ([], data)

def unpack (buf : Bytes) : Except PyError (GRE P) := do
  let (header, data) ← GREHeader.format.unpackHdr .big buf
  let (fields, data) ← unpackFields header.flags data
  let (sre, data) ← unpackSre header.flags data
  let data ← Payload.decode registry PyError.IsUnpackError header.p data
  .ok { header with fields, sre, data }

def parse (buf : Bytes) : Except PyError (GRE P) :=
  packetInit "GRE" (some GREHeader.format.size) (unpack registry) buf

def size (self : GRE P) : Nat :=
  let optFmtlen := calcsize ((optFieldsFmts self.flags).map Prod.snd)
  GREHeader.format.size + optFmtlen + (self.sre.map SRE.size).sum +
    self.data.size registry

def getattrs (values : List (OptField × Nat)) :
    List OptField → Except PyError (List Nat)
  | [] => .ok []
  | field :: rest =>
      match values.lookup field with
      | none => .error .attributeError
      | some value => do
          let others ← getattrs values rest
          .ok (value :: others)

def packFields (self : GRE P) : Except PyError Bytes :=
  let fields := (optFieldsFmts self.flags).map Prod.fst
  let fmts := (optFieldsFmts self.flags).map Prod.snd
  if fields = [] then .ok []
  else do
    let vals ← getattrs self.fields fields
    DpktNg.packFields (fmts.zip vals)

def bytes (self : GRE P) : Except PyError Bytes := do
  let optS ← self.packFields
  let hdr ← GREHeader.format.packHdr .big self.toGREHeader
  let sre ← joinBytes SRE.bytes self.sre
  let data ← self.data.bytes registry
  .ok (hdr ++ optS ++ sre ++ data)

end GRE

/-- Where the two short fields come first, nothing is aligned. -/
theorem calcsize_short_first (count : Nat) :
    calcsize (2 :: 2 :: List.replicate count 4) = 4 + 4 * count ∧
      calcsize (List.replicate count 4) = 4 * count := by
  have step (start : Nat) : (List.replicate count 4).foldl
      (fun off width => (off + width - 1) / width * width + width) (4 * start) =
        4 * start + 4 * count := by
    induction count generalizing start with
    | zero => rfl
    | succ count ih =>
        have next : (4 * start + 4 - 1) / 4 * 4 + 4 = 4 * (start + 1) := by
          omega
        rw [List.replicate_succ, List.foldl_cons, next, ih]
        omega
  constructor
  · exact step 1
  · exact (step 0).trans (by omega)

theorem fmts_eq (flags : Nat) : ∃ count,
    (optFieldsFmts flags).map Prod.snd = 2 :: 2 :: List.replicate count 4 ∨
      (optFieldsFmts flags).map Prod.snd = List.replicate count 4 := by
  have long (table : List OptFieldDef) (four : ∀ entry ∈ table,
      entry.width = 4) : ∃ count,
        (selected flags table).map Prod.snd = List.replicate count 4 := by
    refine ⟨_, List.eq_replicate_iff.mpr ⟨rfl, ?_⟩⟩
    intro width member
    obtain ⟨pair, chosen, rfl⟩ := List.mem_map.mp member
    obtain ⟨entry, present, rfl⟩ := List.mem_map.mp chosen
    exact four entry (List.mem_of_mem_filter present)
  unfold optFieldsFmts
  split
  · obtain ⟨count, same⟩ := long (optFieldTable.drop 2) (by decide)
    by_cases routed : flags &&& (greCP ||| greRP) ≠ 0
    · have first : selected flags optFieldTable = (.sum, 2) :: (.off, 2) ::
          selected flags (optFieldTable.drop 2) := by
        simp only [selected, optFieldTable, List.filter_cons, List.drop,
          decide_eq_true routed, if_true, List.map_cons]
      refine ⟨count, Or.inl ?_⟩
      rw [first, List.map_cons, List.map_cons, same]
    · have none : selected flags optFieldTable =
          selected flags (optFieldTable.drop 2) := by
        simp only [selected, optFieldTable, List.filter_cons, List.drop,
          decide_eq_false routed, Bool.false_eq_true, if_false]
      refine ⟨count, Or.inr ?_⟩
      rw [none, same]
  · obtain ⟨count, same⟩ := long (optFieldTable.drop 3) (by decide)
    refine ⟨count, Or.inl ?_⟩
    rw [List.map_cons, List.map_cons, same]

/-- The size that is computed with alignment is that of the format without. -/
theorem calcsize_fmts (flags : Nat) :
    calcsize ((optFieldsFmts flags).map Prod.snd) =
      ((optFieldsFmts flags).map Prod.snd).sum := by
  obtain ⟨count, both | none⟩ := fmts_eq flags
  · rw [both, (calcsize_short_first count).1, List.sum_cons, List.sum_cons,
      List.sum_replicate, smul_eq_mul]
    omega
  · rw [none, (calcsize_short_first count).2, List.sum_replicate, smul_eq_mul]
    omega

theorem fields_nodup (flags : Nat) :
    ((optFieldsFmts flags).map Prod.fst).Nodup := by
  have fields (table : List OptFieldDef) :
      List.Sublist ((selected flags table).map Prod.fst)
        (table.map OptFieldDef.field) := by
    unfold selected
    rw [List.map_map]
    exact List.filter_sublist.map OptFieldDef.field
  unfold optFieldsFmts
  split
  · exact (fields optFieldTable).nodup (by decide)
  · have both := ((fields (optFieldTable.drop 3)).cons_cons .callid).cons_cons .len
    exact both.nodup (by decide)

namespace GRE

theorem getattrs_skip {field : OptField} {value : Nat}
    {values : List (OptField × Nat)} {fields : List OptField}
    (other : field ∉ fields) :
    getattrs ((field, value) :: values) fields = getattrs values fields := by
  induction fields with
  | nil => rfl
  | cons first rest ih =>
      rw [List.mem_cons, not_or] at other
      have differs : (first == field) = false :=
        beq_eq_false_iff_ne.mpr (Ne.symm other.1)
      rw [getattrs, getattrs, List.lookup_cons, differs, ih other.2]

theorem getattrs_zip {fields : List OptField} {vals : List Nat}
    (nodup : fields.Nodup) (length : vals.length = fields.length) :
    getattrs (fields.zip vals) fields = .ok vals := by
  induction fields generalizing vals with
  | nil => rw [List.eq_nil_of_length_eq_zero length]; rfl
  | cons field rest ih =>
      cases vals with
      | nil => cases length
      | cons value others =>
          rw [List.nodup_cons] at nodup
          rw [List.zip_cons_cons, getattrs, List.lookup_cons_self]
          dsimp only
          rw [getattrs_skip nodup.1, ih nodup.2 (Nat.succ.inj length), ok_bind]

theorem valuesLength {widths vals : List Nat} {bytes : Bytes}
    (read : DpktNg.unpackFields widths bytes = .ok vals) :
    vals.length = widths.length := by
  have length (widths : List Nat) (bytes : Bytes) :
      (fieldValues widths bytes).length = widths.length := by
    induction widths generalizing bytes with
    | nil => rfl
    | cons width rest ih =>
        rw [fieldValues, List.length_cons, ih, List.length_cons]
  unfold DpktNg.unpackFields at read
  split at read
  · cases read
    exact length widths bytes
  · cases read

theorem unpackFields_packed {flags : Nat} {data rest : Bytes}
    {fields : List (OptField × Nat)}
    (read : unpackFields flags data = .ok (fields, rest)) :
    ∃ front, data = front ++ rest ∧
      front.length = calcsize ((optFieldsFmts flags).map Prod.snd) ∧
      ∀ {P : Type} {self : GRE P}, self.flags = flags →
        self.fields = fields → self.packFields = .ok front := by
  unfold unpackFields at read
  dsimp only at read
  split at read
  · rename_i none
    cases read
    refine ⟨[], rfl, ?_, ?_⟩
    · rw [List.map_eq_nil_iff.mp none]
      rfl
    · intro P self same _fields
      unfold packFields
      rw [same, if_pos none]
  · rename_i some
    obtain ⟨vals, unpacked, same⟩ := bind_eq_ok.mp read
    cases same
    have length := unpackFields_length unpacked
    have count : vals.length = ((optFieldsFmts flags).map Prod.fst).length := by
      rw [valuesLength unpacked, List.length_map, List.length_map]
    refine ⟨data.take (calcsize ((optFieldsFmts flags).map Prod.snd)),
      (List.take_append_drop _ _).symm, ?_, ?_⟩
    · rw [length, calcsize_fmts]
    · intro P self same values
      unfold packFields
      rw [same, if_neg some, values,
        getattrs_zip (fields_nodup flags) count, ok_bind,
        packFields_of_unpackFields unpacked]

end GRE

theorem readSres_joined {data rest : Bytes} {sres : List SRE}
    (read : readSres data = .ok (sres, rest)) :
    ∃ front, data = front ++ rest ∧ (sres.map SRE.size).sum = front.length ∧
      joinBytes SRE.bytes sres = .ok front := by
  fun_induction readSres data generalizing sres rest with
  | case1 data problem failed => cases read
  | case2 data sre parsed last =>
      cases read
      obtain ⟨_positive, within, written⟩ := SRE.bytes_parse parsed
      refine ⟨data.take sre.size, (List.take_append_drop _ _).symm, ?_, ?_⟩
      · rw [List.map_singleton, List.sum_singleton, List.length_take]
        omega
      · rw [joinBytes, written, ok_bind, joinBytes, ok_bind, List.append_nil]
  | case3 data sre parsed more ih =>
      obtain ⟨⟨others, behind⟩, readRest, same⟩ := bind_eq_ok.mp read
      cases same
      obtain ⟨_positive, within, written⟩ := SRE.bytes_parse parsed
      obtain ⟨front, parts, sizes, joined⟩ := ih readRest
      refine ⟨data.take sre.size ++ front, ?_, ?_, ?_⟩
      · rw [List.append_assoc, ← parts, List.take_append_drop]
      · rw [List.map_cons, List.sum_cons, sizes, List.length_append,
          List.length_take]
        omega
      · rw [joinBytes, written, ok_bind, joined, ok_bind]

namespace GRE

variable {P : Type} {registry : Registry P}

/-- A packet whose protocol has no class is written as it was parsed. -/
theorem gre_rewritten {buf : Bytes} {gre : GRE P}
    (parsed : parse registry buf = .ok gre)
    (unregistered : registry.lookup gre.p = none) :
    gre.bytes registry = .ok buf ∧ gre.size registry = buf.length := by
  obtain ⟨⟨header, data⟩, hdr, unpacked⟩ :=
    bind_eq_ok.mp (packetInit_eq_ok.mp parsed)
  obtain ⟨⟨fields, behindFields⟩, readFields, routes⟩ := bind_eq_ok.mp unpacked
  obtain ⟨⟨sre, behindRoutes⟩, readRoutes, last⟩ := bind_eq_ok.mp routes
  obtain ⟨payload, decoded, same⟩ := bind_eq_ok.mp last
  cases same
  rw [Payload.decode_unregistered unregistered] at decoded
  cases decoded
  have isExact : GREHeader.format.Exact := fun _values => rfl
  obtain ⟨packed, enough, rest⟩ := StructFormat.repacked isExact hdr
  obtain ⟨opt, optParts, optLength, optPacked⟩ :=
    unpackFields_packed readFields
  have routed : ∃ front, behindFields = front ++ behindRoutes ∧
      (sre.map SRE.size).sum = front.length ∧
      joinBytes SRE.bytes sre = .ok front := by
    unfold unpackSre at readRoutes
    split at readRoutes
    · exact readSres_joined readRoutes
    · cases readRoutes
      exact ⟨[], rfl, rfl, rfl⟩
  obtain ⟨front, routeParts, routeSizes, routePacked⟩ := routed
  have whole : buf = buf.take GREHeader.format.size ++
      (opt ++ (front ++ behindRoutes)) := by
    rw [← routeParts, ← optParts, rest, List.take_append_drop]
  constructor
  · unfold bytes
    rw [optPacked rfl rfl, ok_bind]
    dsimp only
    rw [packed, ok_bind, routePacked, ok_bind, Payload.bytes, ok_bind,
      List.append_assoc, List.append_assoc, ← whole]
  · have total := congrArg List.length whole
    rw [List.length_append, List.length_append, List.length_append,
      List.length_take, Nat.min_eq_left enough] at total
    unfold size
    dsimp only
    rw [← optLength, routeSizes, Payload.size]
    omega

/-- A packet with a checksum, a key and two entries, for a protocol without a
class. -/
def routedPacket : Bytes :=
  [0x60, 0, 0x12, 0x34, 0, 1, 0, 2, 0, 0, 0, 9] ++
    ([0, 3, 4, 2, 0xff, 0xff] ++ [0, 6, 0, 0]) ++ [7, 8]

theorem gre_rewritten_routed : ∃ gre,
    parse Registry.empty routedPacket = .ok gre ∧ gre.sre.length = 2 ∧
    gre.bytes Registry.empty = .ok routedPacket ∧
    gre.size Registry.empty = routedPacket.length := by
  have parsed : parse Registry.empty routedPacket = .ok
      { flags := 0x6000, p := 0x1234
        fields := [(.sum, 1), (.off, 2), (.key, 9)]
        sre := [{ family := 3, off := 4, len := 2, data := [0xff, 0xff] },
          { family := 6, off := 0, len := 0, data := [] }]
        data := .raw [7, 8] } := by
    decide +kernel
  exact ⟨_, parsed, rfl, gre_rewritten parsed rfl⟩

end GRE

end DpktNg.Gre
