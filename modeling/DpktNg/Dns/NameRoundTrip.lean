/-
Name compression.  Every entry of `label_ptrs` spells its name at its offset,
and `pack_name` keeps that true of the longer output, as long as it refers to
entries below 0x4000 only.

A packed name is read back as the same name up to ASCII case, wherever in a
message it was packed.
-/

import DpktNg.Dns.NameCells
import DpktNg.Library.Codec
import DpktNg.Dns.Name

namespace DpktNg.Dns

open Library

/-! ### Keys of the table -/

/-- The key of a name: its labels in upper case, each with a dot behind. -/
def nameKey (labels : List Bytes) : Bytes := upper (joinDots (labels ++ [[]]))

theorem joinDots_root (labels : List Bytes) :
    joinDots (labels ++ [[]]) = labels.flatMap fun label => label ++ [dot] := by
  induction labels with
  | nil => rfl
  | cons label rest ih =>
      unfold joinDots at ih ⊢
      rw [List.cons_append, List.intercalate_cons_of_ne_nil (by simp), ih,
        List.flatMap_cons]

theorem upperByte_dot : ∀ byte : UInt8, upperByte byte = dot ↔ byte = dot :=
  forall_byte (by decide +kernel)

theorem dot_mem_upper {label : Bytes} : dot ∈ upper label ↔ dot ∈ label := by
  unfold upper
  rw [List.mem_map]
  constructor
  · rintro ⟨byte, member, same⟩
    rw [upperByte_dot] at same
    rw [← same]
    exact member
  · intro member
    exact ⟨dot, member, (upperByte_dot dot).mpr rfl⟩

theorem nameKey_eq (labels : List Bytes) :
    nameKey labels = (labels.map upper).flatMap fun label => label ++ [dot] := by
  unfold nameKey
  rw [joinDots_root]
  induction labels with
  | nil => rfl
  | cons label rest ih =>
      rw [List.flatMap_cons, List.map_cons, List.flatMap_cons, ← ih]
      unfold upper
      rw [List.map_append, List.map_append]
      rfl

theorem nameKey_cons (label : Bytes) (rest : List Bytes) :
    nameKey (label :: rest) = upper label ++ dot :: nameKey rest := by
  rw [nameKey_eq, nameKey_eq, List.map_cons, List.flatMap_cons,
    List.append_assoc, List.singleton_append]

theorem nameKey_length (labels : List Bytes) :
    (nameKey labels).length = wireLength labels := by
  induction labels with
  | nil => rfl
  | cons label rest ih =>
      rw [nameKey_cons, List.length_append, List.length_cons, ih,
        wireLength_cons, upper, List.length_map]
      omega

theorem nameKey_congr {labels labels' : List Bytes}
    (same : labels.map upper = labels'.map upper) :
    nameKey labels = nameKey labels' := by
  rw [nameKey_eq, nameKey_eq, same]

/-- Labels without dots are determined by the key, up to case. -/
theorem nameKey_injective {labels labels' : List Bytes}
    (dotless : ∀ label ∈ labels, dot ∉ label)
    (dotless' : ∀ label ∈ labels', dot ∉ label)
    (same : nameKey labels = nameKey labels') :
    labels.map upper = labels'.map upper := by
  induction labels generalizing labels' with
  | nil =>
      cases labels' with
      | nil => rfl
      | cons label' rest' =>
          rw [nameKey_cons] at same
          exact absurd same.symm (List.append_ne_nil_of_right_ne_nil _ (by simp))
  | cons label rest ih =>
      cases labels' with
      | nil =>
          rw [nameKey_cons] at same
          exact absurd same (List.append_ne_nil_of_right_ne_nil _ (by simp))
      | cons label' rest' =>
          rw [nameKey_cons, nameKey_cons] at same
          have absent : dot ∉ upper label := fun member =>
            dotless label List.mem_cons_self (dot_mem_upper.mp member)
          have absent' : dot ∉ upper label' := fun member =>
            dotless' label' List.mem_cons_self (dot_mem_upper.mp member)
          obtain ⟨sameLabel, sameRest⟩ :=
            split_at_separator absent absent' same
          rw [List.map_cons, List.map_cons, sameLabel,
            ih (fun other member => dotless other (List.mem_cons_of_mem _ member))
              (fun other member => dotless' other (List.mem_cons_of_mem _ member))
              sameRest]

/-- The labels under this key can be read at this offset. -/
def SpelledAt (buf key : Bytes) (ptr : Nat) : Prop :=
  ∃ labels behind, nameKey labels = key ∧ (∀ label ∈ labels, dot ∉ label) ∧
    Spells (cellAt buf) ptr ptr labels behind

def TableOk (buf : Bytes) (labelPtrs : LabelPtrs) : Prop :=
  ∀ key ptr, labelPtrs.get? key = some ptr → SpelledAt buf key ptr

theorem SpelledAt.extend {buf full key : Bytes} {ptr : Nat}
    (within : buf <+: full) (spelled : SpelledAt buf key ptr) :
    SpelledAt full key ptr := by
  obtain ⟨labels, behind, same, dotless, cells⟩ := spelled
  exact ⟨labels, behind, same, dotless, cells.extend (cellAt_extends within)⟩

theorem SpelledAt.inside {buf key : Bytes} {ptr : Nat}
    (spelled : SpelledAt buf key ptr) : ptr < buf.length := by
  obtain ⟨labels, behind, _same, _dotless, cells⟩ := spelled
  by_contra outside
  apply cells.present
  unfold cellAt
  rw [List.getElem?_eq_none (by omega)]

theorem TableOk.extend {buf full : Bytes} {labelPtrs : LabelPtrs}
    (within : buf <+: full) (table : TableOk buf labelPtrs) :
    TableOk full labelPtrs := fun key ptr found =>
  (table key ptr found).extend within

theorem TableOk.empty (buf : Bytes) : TableOk buf Dict.empty := by
  intro key ptr found
  cases found

/-! ### Packing a name -/

@[mk_iff]
structure ValidLabel (label : Bytes) : Prop where
  nonempty : label ≠ []
  short : label.length ≤ 63
  ascii : ∀ byte ∈ label, byte < 0x80
  dotless : dot ∉ label

instance (label : Bytes) : Decidable (ValidLabel label) :=
  decidable_of_iff' _ (validLabel_iff label)

/-- What matters to the packer: bytes outside ASCII may stand in a label. -/
@[mk_iff]
structure FittingLabel (label : Bytes) : Prop where
  nonempty : label ≠ []
  short : label.length ≤ 63
  dotless : dot ∉ label

instance (label : Bytes) : Decidable (FittingLabel label) :=
  decidable_of_iff' _ (fittingLabel_iff label)

theorem ValidLabel.fitting {label : Bytes} (valid : ValidLabel label) :
    FittingLabel label := ⟨valid.nonempty, valid.short, valid.dotless⟩

/-- The pointers that keep all their bits. -/
def lowPointer (ptr : Nat) : Except PyError Bytes :=
  if ptr < 0x4000 then packPointer ptr else .error .structError

theorem lowPointer_eq_ok {ptr : Nat} {written : Bytes}
    (packed : lowPointer ptr = .ok written) :
    ptr < 0x4000 ∧ written = beBytes 2 (0xc000 ||| ptr) := by
  unfold lowPointer at packed
  split at packed
  · rename_i low
    exact ⟨low, (packBe_eq_ok packed).2⟩
  · cases packed

section Steps

variable {pointer : Nat → Except PyError Bytes} {off : Nat} {buf : Bytes}
  {labelPtrs : LabelPtrs}

theorem packLabels_found {labels : List Bytes} {ptr : Nat}
    (found : labelPtrs.get? (nameKey labels) = some ptr) :
    packLabels pointer off buf labelPtrs (labels ++ [[]]) =
      pointer ptr >>= fun written => .ok (buf ++ written, labelPtrs) := by
  cases labels with
  | nil => exact packLabels_cons_found found
  | cons label rest => exact packLabels_cons_found found

theorem packLabels_root (absent : labelPtrs.get? (nameKey []) = none) :
    packLabels pointer off buf labelPtrs ([] ++ [[]]) =
      .ok (buf ++ [0], labelPtrs) := by
  have unnamed : ¬((upper (joinDots [[]])).length > 1 ∧
      off + buf.length < 0xc000) := fun both =>
    absurd both.1 (by decide)
  rw [List.nil_append, packLabels_cons_absent absent, if_neg unnamed,
    show packBe 1 ([] : Bytes).length = .ok [0] from rfl, ok_bind, packLabels,
    List.append_nil]

def register (labelPtrs : LabelPtrs) (labels : List Bytes) (ptr : Nat) :
    LabelPtrs :=
  if (nameKey labels).length > 1 ∧ ptr < 0xc000
  then labelPtrs.set (nameKey labels) ptr else labelPtrs

theorem packLabels_label {label : Bytes} {rest : List Bytes}
    (short : label.length ≤ 63)
    (absent : labelPtrs.get? (nameKey (label :: rest)) = none) :
    packLabels pointer off buf labelPtrs ((label :: rest) ++ [[]]) =
      packLabels pointer off (buf ++ UInt8.ofNat label.length :: label)
        (register labelPtrs (label :: rest) (off + buf.length))
        (rest ++ [[]]) := by
  have fits : label.length < 256 ^ 1 := by omega
  have absent : labelPtrs.get? (upper (joinDots (label :: (rest ++ [[]])))) =
      none := absent
  rw [List.cons_append, packLabels_cons_absent absent, packBe, if_pos fits,
    ok_bind, List.append_assoc]
  rfl

theorem packLabels_begins {labels : List Bytes} {buf' : Bytes}
    {labelPtrs' : LabelPtrs}
    (packed : packLabels pointer off buf labelPtrs labels =
      .ok (buf', labelPtrs')) : buf <+: buf' := by
  induction labels generalizing buf labelPtrs with
  | nil =>
      rw [packLabels, Except.ok.injEq, Prod.mk.injEq] at packed
      rw [packed.1]
  | cons label rest ih =>
      cases found : labelPtrs.get? (upper (joinDots (label :: rest))) with
      | some ptr =>
          rw [packLabels_cons_found found] at packed
          obtain ⟨written, _pointed, done⟩ := bind_eq_ok.mp packed
          rw [Except.ok.injEq, Prod.mk.injEq] at done
          exact ⟨written, done.1⟩
      | none =>
          rw [packLabels_cons_absent found] at packed
          obtain ⟨size, _packedSize, packedRest⟩ := bind_eq_ok.mp packed
          have longer := ih packedRest
          rw [List.append_assoc] at longer
          exact (List.prefix_append _ _).trans longer

theorem get?_register {labels : List Bytes} {ptr : Nat} {key : Bytes}
    {found : Nat} (here : (register labelPtrs labels ptr).get? key = some found) :
    labelPtrs.get? key = some found ∨ (key = nameKey labels ∧ found = ptr) := by
  unfold register at here
  split at here
  · by_cases same : key = nameKey labels
    · rw [same, Dict.get?_set_same, Option.some.injEq] at here
      exact Or.inr ⟨same, here.symm⟩
    · rw [Dict.get?_set_other _ _ same] at here
      exact Or.inl here
  · exact Or.inl here

end Steps

/-- What packing the labels that are left does: the output behind `front`
grows, the labels can be read where they were written, and so can every new
entry of the table. -/
structure PackedAs (front : Bytes) (labels : List Bytes) (buf buf' : Bytes)
    (labelPtrs labelPtrs' : LabelPtrs) : Prop where
  grows : buf <+: buf'
  spelled : ∃ spelled, spelled.map upper = labels.map upper ∧
    Spells (cellAt (front ++ buf')) front.length (front.length + buf.length)
      spelled (front.length + buf'.length)
  table : ∀ key ptr, labelPtrs'.get? key = some ptr →
    labelPtrs.get? key = some ptr ∨ SpelledAt (front ++ buf') key ptr

theorem packedAs_pointer {front : Bytes} {labels : List Bytes}
    (dotless : ∀ label ∈ labels, dot ∉ label) {buf buf' : Bytes}
    {labelPtrs labelPtrs' : LabelPtrs} {ptr : Nat}
    (found : labelPtrs.get? (nameKey labels) = some ptr)
    (entry : SpelledAt front (nameKey labels) ptr)
    (packed : packLabels lowPointer front.length buf labelPtrs
      (labels ++ [[]]) = .ok (buf', labelPtrs')) :
    PackedAs front labels buf buf' labelPtrs labelPtrs' := by
  rw [packLabels_found found] at packed
  obtain ⟨written, pointed, done⟩ := bind_eq_ok.mp packed
  obtain ⟨low, bytes⟩ := lowPointer_eq_ok pointed
  rw [Except.ok.injEq, Prod.mk.injEq] at done
  have below := entry.inside
  obtain ⟨spelled, behind, same, dotless', cells⟩ := entry
  have length : written.length = 2 := by rw [bytes, beBytes_length]
  refine ⟨⟨written, done.1⟩, ⟨spelled, ?_, ?_⟩, ?_⟩
  · exact nameKey_injective dotless' dotless same
  · have at_pointer := cellAt_pointer (front ++ buf) low
    rw [← bytes, List.append_assoc, List.length_append] at at_pointer
    rw [← done.1, List.length_append, length, ← Nat.add_assoc]
    apply Spells.jump at_pointer below
    exact cells.extend (cellAt_extends (List.prefix_append _ _))
  · intro key ptr' here
    rw [← done.2] at here
    exact Or.inl here

theorem packedAs_root {front buf buf' : Bytes}
    {labelPtrs labelPtrs' : LabelPtrs}
    (absent : labelPtrs.get? (nameKey []) = none)
    (packed : packLabels lowPointer front.length buf labelPtrs ([] ++ [[]]) =
      .ok (buf', labelPtrs')) :
    PackedAs front [] buf buf' labelPtrs labelPtrs' := by
  rw [packLabels_root absent, Except.ok.injEq, Prod.mk.injEq] at packed
  refine ⟨⟨[0], packed.1⟩, ⟨[], rfl, ?_⟩, ?_⟩
  · have at_root := cellAt_root (front ++ buf)
    rw [List.append_assoc, List.length_append] at at_root
    rw [← packed.1, List.length_append, List.length_singleton,
      ← Nat.add_assoc]
    exact Spells.stop at_root
  · intro key ptr here
    rw [← packed.2] at here
    exact Or.inl here

theorem spells_label {front buf full label : Bytes} {spelled : List Bytes}
    {low stop : Nat} (fitting : FittingLabel label)
    (within : front ++ (buf ++ UInt8.ofNat label.length :: label) <+: full)
    (cells : Spells (cellAt full) low (front.length +
      (buf ++ UInt8.ofNat label.length :: label).length) spelled stop) :
    Spells (cellAt full) low (front.length + buf.length) (label :: spelled)
      stop := by
  have here := cellAt_label (front ++ buf) fitting.nonempty fitting.short
  rw [List.append_assoc, List.length_append] at here
  have position : front.length +
      (buf ++ UInt8.ofNat label.length :: label).length =
        front.length + buf.length + 1 + label.length := by
    rw [List.length_append, List.length_cons]
    omega
  rw [position] at cells
  exact .item (cellAt_extends within _ _ here) cells

theorem packedAs_label {front : Bytes} {label : Bytes} {rest : List Bytes}
    (fitting : FittingLabel label) (dotless : ∀ label ∈ rest, dot ∉ label)
    {buf buf' : Bytes} {labelPtrs labelPtrs' : LabelPtrs}
    (behind : PackedAs front rest (buf ++ UInt8.ofNat label.length :: label)
      buf' (register labelPtrs (label :: rest) (front.length + buf.length))
      labelPtrs') :
    PackedAs front (label :: rest) buf buf' labelPtrs labelPtrs' := by
  obtain ⟨grows, ⟨spelled, same, cells⟩, table⟩ := behind
  have whole := spells_label fitting
    ((List.prefix_append_right_inj front).mpr grows) cells
  have key : nameKey (label :: spelled) = nameKey (label :: rest) := by
    apply nameKey_congr
    rw [List.map_cons, List.map_cons, same]
  have dotless' : ∀ label ∈ spelled, dot ∉ label := by
    intro other member present
    have member' : upper other ∈ rest.map upper :=
      same ▸ List.mem_map_of_mem member
    obtain ⟨original, from_rest, equal⟩ := List.mem_map.mp member'
    have contained := dot_mem_upper.mpr present
    rw [← equal, dot_mem_upper] at contained
    exact dotless original from_rest contained
  refine ⟨(List.prefix_append _ _).trans grows,
    ⟨label :: spelled, ?_, whole⟩, ?_⟩
  · rw [List.map_cons, List.map_cons, same]
  · intro other ptr present
    cases table other ptr present with
    | inr new => exact Or.inr new
    | inl registered =>
        cases get?_register registered with
        | inl old => exact Or.inl old
        | inr own =>
            rw [own.1, own.2]
            refine Or.inr ⟨label :: spelled, _, key, ?_,
              whole.raise (Nat.le_add_right _ _)⟩
            intro other member
            cases member with
            | head => exact fitting.dotless
            | tail _ inside => exact dotless' other inside

/-- The induction is on the labels that are left.  A name never finds the
entries it made itself, since their keys are longer than what is left. -/
theorem packLabels_packedAs {front : Bytes} (labels : List Bytes)
    (fitting : ∀ label ∈ labels, FittingLabel label) {buf buf' : Bytes}
    {labelPtrs labelPtrs' : LabelPtrs}
    (lookups : ∀ suffix, suffix <:+ labels → ∀ ptr,
      labelPtrs.get? (nameKey suffix) = some ptr →
        SpelledAt front (nameKey suffix) ptr)
    (packed : packLabels lowPointer front.length buf labelPtrs
      (labels ++ [[]]) = .ok (buf', labelPtrs')) :
    PackedAs front labels buf buf' labelPtrs labelPtrs' := by
  have dotless : ∀ label ∈ labels, dot ∉ label :=
    fun label member => (fitting label member).dotless
  induction labels generalizing buf labelPtrs with
  | nil =>
      cases found : labelPtrs.get? (nameKey []) with
      | some ptr =>
          exact packedAs_pointer dotless found
            (lookups [] List.suffix_rfl ptr found) packed
      | none => exact packedAs_root found packed
  | cons label rest ih =>
      cases found : labelPtrs.get? (nameKey (label :: rest)) with
      | some ptr =>
          exact packedAs_pointer dotless found
            (lookups _ List.suffix_rfl ptr found) packed
      | none =>
          have fittingLabel := fitting label List.mem_cons_self
          have dotlessRest : ∀ label ∈ rest, dot ∉ label :=
            fun other member => dotless other (List.mem_cons_of_mem _ member)
          rw [packLabels_label fittingLabel.short found] at packed
          apply packedAs_label fittingLabel dotlessRest
          refine ih (fun other member =>
            fitting other (List.mem_cons_of_mem _ member)) ?_ packed dotlessRest
          intro suffix tail ptr here
          have shorter : wireLength suffix ≤ wireLength rest := by
            obtain ⟨front, whole⟩ := tail
            rw [← whole, wireLength, wireLength, List.map_append,
              List.sum_append]
            omega
          cases get?_register here with
          | inl old =>
              exact lookups suffix (tail.trans (List.suffix_cons _ _)) ptr old
          | inr own =>
              have lengths := congrArg List.length own.1
              rw [nameKey_length, nameKey_length, wireLength_cons] at lengths
              omega

theorem lowPointer_refines (ptr : Nat) :
    Refines (lowPointer ptr) (packPointer ptr) := by
  intro written pointed
  unfold lowPointer at pointed
  split at pointed
  · exact pointed
  · cases pointed

theorem packLabels_refines (off : Nat) (labels : List Bytes) (buf : Bytes)
    (labelPtrs : LabelPtrs) :
    Refines (packLabels lowPointer off buf labelPtrs labels)
      (packLabels packPointer off buf labelPtrs labels) := by
  induction labels generalizing buf labelPtrs with
  | nil => exact .refl _
  | cons label rest ih =>
      cases found : labelPtrs.get? (upper (joinDots (label :: rest))) with
      | some ptr =>
          rw [packLabels_cons_found found, packLabels_cons_found found]
          exact .bind (lowPointer_refines ptr) fun _written => .refl _
      | none =>
          rw [packLabels_cons_absent found, packLabels_cons_absent found]
          exact .bind (.refl _) fun size => ih _ _

theorem packName_refines (name : PyStr) (off : Nat) (labelPtrs : LabelPtrs) :
    Refines (packName lowPointer name off labelPtrs)
      (packName packPointer name off labelPtrs) :=
  packLabels_refines off _ [] labelPtrs

/-- A name without a truncated pointer is packed in one way. -/
theorem packName_of_low {name : PyStr} {off : Nat} {labelPtrs : LabelPtrs}
    {result other : Bytes × LabelPtrs}
    (packed : packName lowPointer name off labelPtrs = .ok result)
    (whole : packName packPointer name off labelPtrs = .ok other) :
    result = other := by
  have again := packName_refines name off labelPtrs result packed
  rw [again, Except.ok.injEq] at whole
  exact whole

/-! ### Labels of a name -/

theorem mem_joinDots {labels : List Bytes} {byte : UInt8}
    (member : byte ∈ joinDots labels) :
    byte = dot ∨ ∃ label ∈ labels, byte ∈ label := by
  induction labels with
  | nil => cases member
  | cons label rest ih =>
      unfold joinDots at ih member
      cases rest with
      | nil =>
          rw [List.intercalate_singleton] at member
          exact Or.inr ⟨label, List.mem_cons_self, member⟩
      | cons next others =>
          rw [List.intercalate_cons_cons, List.mem_append, List.mem_append,
            List.mem_singleton] at member
          rcases member with (here | here) | behind
          · exact Or.inr ⟨label, List.mem_cons_self, here⟩
          · exact Or.inl here
          · rcases ih behind with here | ⟨inner, among, inside⟩
            · exact Or.inl here
            · exact Or.inr ⟨inner, List.mem_cons_of_mem _ among, inside⟩

theorem upper_joinDots (labels : List Bytes) :
    upper (joinDots labels) = joinDots (labels.map upper) := by
  induction labels with
  | nil => rfl
  | cons label rest ih =>
      cases rest with
      | nil =>
          unfold joinDots
          rw [List.intercalate_singleton, List.map_singleton,
            List.intercalate_singleton]
      | cons next others =>
          unfold joinDots upper at ih ⊢
          rw [List.intercalate_cons_cons, List.map_append, List.map_append, ih]
          simp only [List.map_cons, List.intercalate_cons_cons]
          rfl

theorem joinDots_ascii {labels : List Bytes}
    (valid : ∀ label ∈ labels, ValidLabel label) :
    ∀ byte ∈ joinDots labels, byte < 0x80 := by
  intro byte member
  rcases mem_joinDots member with here | ⟨label, among, inside⟩
  · rw [here]
    decide
  · exact (valid label among).ascii byte inside

theorem dotLabels_joinDots {labels : List Bytes}
    (fitting : ∀ label ∈ labels, FittingLabel label) :
    dotLabels (joinDots labels) = labels := by
  cases labels with
  | nil => rfl
  | cons label rest =>
      have nonempty : joinDots (label :: rest) ≠ [] := by
        have first := (fitting label List.mem_cons_self).nonempty
        unfold joinDots
        cases rest with
        | nil =>
            rw [List.intercalate_singleton]
            exact first
        | cons next others =>
            rw [List.intercalate_cons_cons]
            exact List.append_ne_nil_of_left_ne_nil
              (List.append_ne_nil_of_left_ne_nil first _) _
      unfold dotLabels
      rw [if_pos nonempty, joinDots, List.splitOn_intercalate dot
        (fun label member => (fitting label member).dotless)
        (List.cons_ne_nil _ _)]

/-! ### The round trip of a name -/

/-- Dot-joined labels of ASCII bytes, with at most 255 bytes on the wire. -/
def ValidName (name : PyStr) : Prop :=
  ∃ labels : List Bytes, name = decodeLatin1 (joinDots labels) ∧
    (∀ label ∈ labels, ValidLabel label) ∧ wireLength labels + 1 ≤ 255

def SameName (name name' : PyStr) : Prop := upToCase name' = upToCase name

/-- Labels that survive packing and fit in a name. -/
def CarriedName (name : PyStr) : Prop :=
  ∃ labels : List Bytes, encodeUtf8 name = joinDots labels ∧
    (∀ label ∈ labels, FittingLabel label) ∧ wireLength labels ≤ 255

theorem ValidName.carried {name : PyStr} (valid : ValidName name) :
    CarriedName name := by
  obtain ⟨labels, text, validLabels, short⟩ := valid
  refine ⟨labels, ?_, fun label member => (validLabels label member).fitting,
    by omega⟩
  rw [text, encodeUtf8_decodeLatin1 (joinDots_ascii validLabels)]

theorem unpackName_of_spells {buf : Bytes} {off behind : Nat} {name : PyStr}
    {labels : List Bytes} (text : encodeUtf8 name = joinDots labels)
    (short : wireLength labels ≤ 255)
    (cells : Spells (cellAt buf) off off labels behind) :
    unpackName buf off = .ok (name, behind) := by
  have read : unpackLabels buf off off 0 0 [] = .ok ([] ++ labels, behind) :=
    unpackLabels_of_spells cells (by omega)
  have decoded := decodeUtf8_encodeUtf8 name
  rw [text] at decoded
  unfold unpackName
  rw [read, ok_bind, List.nil_append]
  simp only [decoded]

theorem packName_readsBack {name : PyStr} (carried : CarriedName name)
    {buf written : Bytes} {labelPtrs labelPtrs' : LabelPtrs}
    (table : TableOk buf labelPtrs)
    (packed : packName lowPointer name buf.length labelPtrs =
      .ok (written, labelPtrs')) :
    TableOk (buf ++ written) labelPtrs' ∧
      ReadAs unpackName (SameName name) buf (buf ++ written) := by
  obtain ⟨labels, text, fitting, short⟩ := carried
  unfold packName at packed
  rw [text, dotLabels_joinDots fitting] at packed
  have done := packLabels_packedAs labels fitting
    (fun suffix _tail ptr found => table _ ptr found) packed
  obtain ⟨_grows, ⟨spelled, same, cells⟩, entries⟩ := done
  have begins : buf <+: buf ++ written := List.prefix_append buf written
  have length : wireLength spelled = wireLength labels := by
    rw [← nameKey_length, ← nameKey_length, nameKey_congr same]
  have upperSame : upper (joinDots spelled) = upper (encodeUtf8 name) := by
    rw [text, upper_joinDots, upper_joinDots, same]
  obtain ⟨got, gotText, sameName⟩ := exists_sameText upperSame
  refine ⟨?_, begins, ?_⟩
  · intro key ptr found
    cases entries key ptr found with
    | inl old => exact (table key ptr old).extend begins
    | inr new => exact new
  · intro full within
    refine ⟨got, ?_, sameName⟩
    rw [List.length_append]
    exact unpackName_of_spells gotText (by omega)
      (cells.extend (cellAt_extends within))

end DpktNg.Dns
