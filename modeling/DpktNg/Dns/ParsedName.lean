/-
Names that were read from a message.  The reader succeeds exactly where the
cells spell labels, but `pack_name` splits the text again: a label may hold
dots, and then the name has other labels.  It is packed and read back as the
same name unless one of them is empty, and then it is cut there.
-/

import DpktNg.Dns.NameRoundTrip

namespace DpktNg.Dns

open Library

/-! ### What stands in a cell -/

theorem small_of_top_bits {n : Nat} (byte : n < 256)
    (bits : n &&& 0xc0 = 0x00) : n ≤ 63 := by
  have table : ∀ n < 256, n &&& 0xc0 = 0x00 → n ≤ 63 := by
    decide +kernel
  exact table n byte bits

section Cells

variable {buf : Bytes} {off : Nat}

theorem cellAt_inside {cell : Cell Bytes} (at_cell : cellAt buf off = some cell) :
    off < buf.length := by
  by_contra outside
  unfold cellAt at at_cell
  rw [List.getElem?_eq_none (by omega)] at at_cell
  cases at_cell

theorem cut_length {start size : Nat} (inside : start + size ≤ buf.length) :
    (cut buf start (start + size)).length = size := by
  unfold cut
  rw [List.length_take, List.length_drop]
  omega

theorem cellAt_item_size {label : Bytes} {next : Nat}
    (at_cell : cellAt buf off = some (.item label next)) :
    label ≠ [] ∧ label.length ≤ 63 := by
  unfold cellAt at at_cell
  cases here : buf[off]? with
  | none =>
      rw [here] at at_cell
      cases at_cell
  | some byte =>
      rw [here] at at_cell
      dsimp only at at_cell
      split at at_cell
      · cases at_cell
      · rename_i nonzero
        split at at_cell
        · cases at_cell
        · split at at_cell
          · rename_i found
            rw [Option.some.injEq, Cell.item.injEq] at at_cell
            have size := cut_length found.2
            rw [at_cell.1] at size
            have small := small_of_top_bits byte.toNat_lt found.1
            constructor
            · intro empty
              rw [empty] at size
              exact nonzero size.symm
            · omega
          · cases at_cell

end Cells

theorem cellAt_next {buf : Bytes} {off : Nat} {cell : Cell Bytes}
    (at_cell : cellAt buf off = some cell) :
    match cell with
    | .stop next | .item _ next | .jump _ next =>
        off < next ∧ next ≤ buf.length := by
  have inside := cellAt_inside at_cell
  unfold cellAt at at_cell
  rw [List.getElem?_eq_getElem inside] at at_cell
  dsimp only at at_cell
  split at at_cell
  · cases at_cell
    exact ⟨Nat.lt_succ_self off, inside⟩
  · split at at_cell
    · rename_i pointer
      cases at_cell
      exact ⟨by omega, pointer.2⟩
    · split at at_cell
      · rename_i label
        cases at_cell
        exact ⟨by omega, label.2⟩
      · cases at_cell

theorem behind_of_spells {buf : Bytes} {bound off behind : Nat}
    {labels : List Bytes}
    (spelled : Spells (cellAt buf) bound off labels behind) :
    off < behind ∧ behind ≤ buf.length := by
  induction spelled with
  | stop at_cell => exact cellAt_next at_cell
  | item at_cell _rest ih =>
      have step := cellAt_next at_cell
      exact ⟨Nat.lt_trans step.1 ih.1, ih.2⟩
  | jump at_cell _below _rest _ih => exact cellAt_next at_cell

def RawLabels (labels : List Bytes) : Prop :=
  ∀ label ∈ labels, label ≠ [] ∧ label.length ≤ 63

theorem rawLabels_of_spells {buf : Bytes} {bound off behind : Nat}
    {labels : List Bytes}
    (spelled : Spells (cellAt buf) bound off labels behind) :
    RawLabels labels := by
  induction spelled with
  | stop _at_cell =>
      intro label member
      cases member
  | item at_cell _rest ih =>
      intro label member
      cases member with
      | head => exact cellAt_item_size at_cell
      | tail _ behind => exact ih label behind
  | jump _at_cell _below _rest ih => exact ih

/-! ### What the reader reads -/

theorem spells_of_unpackLabels {buf : Bytes}
    {off startOff savedOff nameLength behind : Nat} {name all : List Bytes}
    (fits : nameLength ≤ 255)
    (read : unpackLabels buf off startOff savedOff nameLength name =
      .ok (all, behind)) :
    ∃ labels stop, all = name ++ labels ∧
      Spells (cellAt buf) startOff off labels stop ∧
      behind = (if savedOff = 0 then stop else savedOff) ∧
      nameLength + wireLength labels ≤ 255 := by
  fun_induction unpackLabels buf off startOff savedOff nameLength name with
  | case1 off startOff savedOff nameLength name inside n root =>
      rw [Except.ok.injEq, Prod.mk.injEq] at read
      refine ⟨[], off + 1, ?_, .stop ?_, read.2.symm, fits⟩
      · rw [List.append_nil, read.1]
      · unfold cellAt
        rw [List.getElem?_eq_getElem inside]
        exact if_pos root
  | case2 off startOff savedOff nameLength name inside n notRoot isPointer ih =>
      obtain ⟨word, twoBytes, read⟩ := bind_eq_ok.mp read
      dsimp only at read
      split at read
      · cases read
      · rename_i below
        obtain ⟨labels, stop, same, spelled, position, short⟩ :=
          ih word below fits read
        have two : (cut buf off (off + 2)).length = 2 ∧
            word = beNat (cut buf off (off + 2)) := by
          unfold unpackBe at twoBytes
          split at twoBytes
          · rename_i two
            exact ⟨two, (Except.ok.inj twoBytes).symm⟩
          · cases twoBytes
        have complete : off + 2 ≤ buf.length := by
          have length := two.1
          unfold cut at length
          rw [List.length_take, List.length_drop] at length
          omega
        have at_cell : cellAt buf off =
            some (.jump (word &&& 0x3fff) (off + 2)) := by
          unfold cellAt
          rw [List.getElem?_eq_getElem inside, two.2]
          exact (if_neg notRoot).trans (if_pos ⟨isPointer, complete⟩)
        refine ⟨labels, off + 2, same, .jump at_cell (by omega) spelled, ?_,
          short⟩
        rw [position]
        by_cases unset : savedOff = 0
        · rw [dif_pos unset, if_pos unset, if_neg (by omega)]
        · rw [dif_neg unset, if_neg unset, if_neg unset]
  | case3 => cases read
  | case4 off startOff savedOff nameLength name inside n notRoot notPointer
      isLabel label longer short ih =>
      obtain ⟨labels, stop, same, spelled, position, fitsAll⟩ :=
        ih (by omega) read
      have complete : off + 1 + n ≤ buf.length := by
        cases at_next : cellAt buf (off + 1 + n) with
        | none => exact absurd at_next spelled.present
        | some cell =>
            have before := cellAt_inside at_next
            omega
      have size : label.length = n := cut_length complete
      have at_cell : cellAt buf off = some (.item label (off + 1 + n)) := by
        unfold cellAt
        rw [List.getElem?_eq_getElem inside]
        refine (if_neg notRoot).trans ((if_neg ?_).trans
          (if_pos ⟨isLabel, complete⟩))
        intro both
        exact notPointer both.1
      refine ⟨label :: labels, stop, ?_, .item at_cell spelled, position, ?_⟩
      · rw [same, List.append_assoc, List.singleton_append]
      · rw [wireLength_cons, size]
        change nameLength + (n + 1) + wireLength labels ≤ 255 at fitsAll
        omega
  | case5 => cases read
  | case6 => cases read

theorem unpackName_eq_ok {buf : Bytes} {off behind : Nat} {name : PyStr} :
    unpackName buf off = .ok (name, behind) ↔
      ∃ labels, encodeUtf8 name = joinDots labels ∧ wireLength labels ≤ 255 ∧
        Spells (cellAt buf) off off labels behind := by
  constructor
  · intro read
    obtain ⟨⟨labels, stop⟩, readLabels, decoded⟩ := bind_eq_ok.mp read
    obtain ⟨spelled, behind', same, cells, position, short⟩ :=
      spells_of_unpackLabels (Nat.zero_le _) readLabels
    rw [if_pos rfl] at position
    rw [List.nil_append] at same
    dsimp only at decoded
    split at decoded
    · rename_i text found
      rw [Except.ok.injEq, Prod.mk.injEq] at decoded
      refine ⟨spelled, ?_, by omega, ?_⟩
      · rw [← decoded.1, encodeUtf8_decodeUtf8 found, same]
      · rw [← decoded.2, position]
        exact cells
    · cases decoded
  · intro spelled
    obtain ⟨labels, text, short, cells⟩ := spelled
    exact unpackName_of_spells text short cells

theorem behind_of_unpackName {buf : Bytes} {off behind : Nat} {name : PyStr}
    (read : unpackName buf off = .ok (name, behind)) :
    off < behind ∧ behind ≤ buf.length := by
  obtain ⟨labels, _text, _short, cells⟩ := unpackName_eq_ok.mp read
  exact behind_of_spells cells

theorem unpackName_extends {buf full : Bytes} {off behind : Nat} {name : PyStr}
    (within : buf <+: full)
    (read : unpackName buf off = .ok (name, behind)) :
    unpackName full off = .ok (name, behind) := by
  obtain ⟨labels, text, short, cells⟩ := unpackName_eq_ok.mp read
  exact unpackName_eq_ok.mpr
    ⟨labels, text, short, cells.extend (cellAt_extends within)⟩

/-! ### Splitting a name at its dots -/

theorem mem_split_dotless {bytes label : Bytes}
    (member : label ∈ bytes.splitOn dot) : dot ∉ label := by
  induction bytes generalizing label with
  | nil =>
      rw [List.splitOn_nil, List.mem_singleton] at member
      rw [member]
      exact List.not_mem_nil
  | cons byte rest ih =>
      rw [List.splitOn_cons_eq_if_modifyHead] at member
      split at member
      · cases member with
        | head => exact List.not_mem_nil
        | tail _ behind => exact ih behind
      · rename_i other
        cases parts : rest.splitOn dot with
        | nil => exact absurd parts (List.splitOn_ne_nil dot rest)
        | cons first others =>
            rw [parts] at ih member
            rw [List.modifyHead_cons] at member
            cases member with
            | head =>
                rw [List.mem_cons]
                intro here
                rcases here with same | inside
                · rw [same] at other
                  exact other (beq_self_eq_true byte)
                · exact ih List.mem_cons_self inside
            | tail _ behind => exact ih (List.mem_cons_of_mem _ behind)

theorem joinDots_length {labels : List Bytes} (nonempty : labels ≠ []) :
    (joinDots labels).length + 1 = wireLength labels := by
  induction labels with
  | nil => exact absurd rfl nonempty
  | cons label rest ih =>
      unfold joinDots at ih ⊢
      cases rest with
      | nil =>
          rw [List.intercalate_singleton]
          rfl
      | cons next others =>
          have behind := ih (List.cons_ne_nil _ _)
          rw [List.intercalate_cons_cons, List.length_append,
            List.length_append, List.length_singleton, wireLength_cons]
          omega

theorem length_le_joinDots {labels : List Bytes} {label : Bytes}
    (member : label ∈ labels) : label.length ≤ (joinDots labels).length := by
  have nonempty := List.ne_nil_of_mem member
  have whole := joinDots_length nonempty
  have part : label.length + 1 ≤ wireLength labels := by
    apply List.single_le_sum (fun _ _ => Nat.zero_le _)
    exact List.mem_map_of_mem member
  omega

/-- Splitting the joined labels again only makes them shorter. -/
theorem split_joinDots_short {labels : List Bytes} {bound : Nat}
    (short : ∀ label ∈ labels, label.length ≤ bound) :
    ∀ part ∈ (joinDots labels).splitOn dot, part.length ≤ bound := by
  induction labels with
  | nil =>
      intro part member
      rw [show joinDots [] = [] from rfl, List.splitOn_nil,
        List.mem_singleton] at member
      rw [member]
      exact Nat.zero_le _
  | cons label rest ih =>
      have split : ∀ part ∈ label.splitOn dot, part.length ≤ bound := by
        intro part member
        have inside := length_le_joinDots member
        unfold joinDots at inside
        rw [List.intercalate_splitOn] at inside
        exact inside.trans (short label List.mem_cons_self)
      intro part member
      cases rest with
      | nil =>
          unfold joinDots at member
          rw [List.intercalate_singleton] at member
          exact split part member
      | cons next others =>
          unfold joinDots at ih member
          rw [List.intercalate_cons_cons, List.append_assoc,
            List.singleton_append, List.splitOn_append_cons_self,
            List.mem_append] at member
          cases member with
          | inl here => exact split part here
          | inr behind =>
              exact ih (fun other among =>
                short other (List.mem_cons_of_mem _ among)) part behind

/-- No label of the name is empty when it is split at its dots: it neither
starts nor ends with a dot, and no two dots are next to each other. -/
def NoEmptyLabel (name : PyStr) : Prop := [] ∉ dotLabels (encodeUtf8 name)

instance (name : PyStr) : Decidable (NoEmptyLabel name) :=
  inferInstanceAs (Decidable ([] ∉ dotLabels (encodeUtf8 name)))

def ReadName (name : PyStr) : Prop :=
  ∃ labels, encodeUtf8 name = joinDots labels ∧ wireLength labels ≤ 255 ∧
    RawLabels labels

theorem readName_of_unpackName {buf : Bytes} {off behind : Nat} {name : PyStr}
    (read : unpackName buf off = .ok (name, behind)) : ReadName name := by
  obtain ⟨labels, text, short, cells⟩ := unpackName_eq_ok.mp read
  exact ⟨labels, text, short, rawLabels_of_spells cells⟩

theorem joinDots_dotLabels (name : Bytes) : joinDots (dotLabels name) = name := by
  unfold dotLabels
  split
  · exact List.intercalate_splitOn dot
  · rename_i empty
    rw [not_not.mp empty]
    rfl

theorem dotLabels_dotless {name label : Bytes}
    (member : label ∈ dotLabels name) : dot ∉ label := by
  unfold dotLabels at member
  split at member
  · exact mem_split_dotless member
  · cases member

theorem ReadName.labels_short {name : PyStr} (read : ReadName name) :
    ∀ label ∈ dotLabels (encodeUtf8 name), label.length ≤ 63 := by
  obtain ⟨labels, text, _short, raw⟩ := read
  intro label member
  unfold dotLabels at member
  split at member
  · rw [text] at member
    exact split_joinDots_short (fun other among => (raw other among).2) label
      member
  · cases member

theorem ReadName.wire_short {name : PyStr} (read : ReadName name) :
    wireLength (dotLabels (encodeUtf8 name)) ≤ 255 := by
  obtain ⟨labels, text, short, _raw⟩ := read
  by_cases empty : encodeUtf8 name = []
  · rw [empty]
    exact Nat.zero_le _
  · have nonempty : dotLabels (encodeUtf8 name) ≠ [] := by
      unfold dotLabels
      rw [if_pos empty]
      exact List.splitOn_ne_nil dot _
    have labelsNonempty : labels ≠ [] := by
      intro none
      rw [none] at text
      exact empty text
    have parts := joinDots_length nonempty
    have whole := joinDots_length labelsNonempty
    rw [joinDots_dotLabels, text] at parts
    rw [text]
    omega

theorem ReadName.carried {name : PyStr} (read : ReadName name)
    (noEmpty : NoEmptyLabel name) : CarriedName name := by
  refine ⟨dotLabels (encodeUtf8 name), (joinDots_dotLabels _).symm, ?_,
    read.wire_short⟩
  intro label member
  refine ⟨?_, read.labels_short label member, dotLabels_dotless member⟩
  intro empty
  rw [empty] at member
  exact noEmpty member

/-! ### Names with an empty label -/

section Truncated

variable {pointer : Nat → Except PyError Bytes} {front : Bytes}

/-- An empty label is written as the root label, so the name ends there when it
is read.  Nothing in front of it is in the table, since no name in the table
has an empty label. -/
theorem packLabels_truncated {goods rest : List Bytes}
    (fitting : ∀ label ∈ goods, FittingLabel label) {buf buf' : Bytes}
    {labelPtrs labelPtrs' : LabelPtrs}
    (absent : ∀ suffix, suffix <:+ goods →
      labelPtrs.get? (nameKey (suffix ++ [] :: rest)) = none)
    (packed : packLabels pointer front.length buf labelPtrs
      (goods ++ [] :: rest ++ [[]]) = .ok (buf', labelPtrs')) :
    ∃ stop, Spells (cellAt (front ++ buf')) front.length
      (front.length + buf.length) goods stop := by
  induction goods generalizing buf labelPtrs with
  | nil =>
      have here : labelPtrs.get? (nameKey ([] :: rest)) = none :=
        absent [] List.suffix_rfl
      have behind : packLabels pointer front.length buf labelPtrs
          (([] :: rest) ++ [[]]) = .ok (buf', labelPtrs') := packed
      rw [packLabels_label (Nat.zero_le _) here] at behind
      have begins := packLabels_begins behind
      have at_root := cellAt_root (front ++ buf)
      rw [List.append_assoc, List.length_append] at at_root
      have within : front ++ (buf ++ [0]) <+: front ++ buf' :=
        (List.prefix_append_right_inj front).mpr begins
      exact ⟨_, .stop (cellAt_extends within _ _ at_root)⟩
  | cons label others ih =>
      have fits := fitting label List.mem_cons_self
      have here : labelPtrs.get? (nameKey (label :: (others ++ [] :: rest))) =
          none := absent _ List.suffix_rfl
      have behind : packLabels pointer front.length buf labelPtrs
          ((label :: (others ++ [] :: rest)) ++ [[]]) =
            .ok (buf', labelPtrs') := packed
      rw [packLabels_label fits.short here] at behind
      have begins := packLabels_begins behind
      have within : front ++ (buf ++ UInt8.ofNat label.length :: label) <+:
          front ++ buf' := (List.prefix_append_right_inj front).mpr begins
      have still : ∀ suffix, suffix <:+ others →
          (register labelPtrs (label :: (others ++ [] :: rest))
            (front.length + buf.length)).get?
              (nameKey (suffix ++ [] :: rest)) = none := by
        intro suffix tail
        cases found : (register labelPtrs (label :: (others ++ [] :: rest))
            (front.length + buf.length)).get?
              (nameKey (suffix ++ [] :: rest)) with
        | none => rfl
        | some ptr =>
            cases get?_register found with
            | inl old =>
                rw [absent suffix (tail.trans (List.suffix_cons _ _))] at old
                cases old
            | inr own =>
                have lengths := congrArg List.length own.1
                obtain ⟨before, whole⟩ := tail
                rw [nameKey_length, nameKey_length, wireLength_cons, ← whole]
                  at lengths
                simp only [wireLength, List.map_append, List.sum_append]
                  at lengths
                omega
      obtain ⟨stop, cells⟩ := ih
        (fun other member => fitting other (List.mem_cons_of_mem _ member))
        still behind
      exact ⟨stop, spells_label fits within cells⟩

end Truncated

/-- The labels before the first empty one. -/
theorem split_at_empty {labels : List Bytes} (member : [] ∈ labels) :
    ∃ goods rest, labels = goods ++ [] :: rest ∧ [] ∉ goods := by
  obtain ⟨goods, rest, same, absent⟩ := List.eq_append_cons_of_mem member
  exact ⟨goods, rest, same, absent⟩

theorem upper_length (bytes : Bytes) : (upper bytes).length = bytes.length :=
  List.length_map _

/-- A name with an empty label is read back as a shorter one, wherever it was
packed. -/
theorem packName_misread {pointer : Nat → Except PyError Bytes} {name : PyStr}
    (read : ReadName name) (bad : ¬NoEmptyLabel name) {buf written : Bytes}
    {labelPtrs labelPtrs' : LabelPtrs} (table : TableOk buf labelPtrs)
    (packed : packName pointer name buf.length labelPtrs =
      .ok (written, labelPtrs')) {full : Bytes} (within : buf ++ written <+: full)
    {got : PyStr} {behind : Nat}
    (readBack : unpackName full buf.length = .ok (got, behind)) :
    ¬SameName name got := by
  obtain ⟨goods, rest, labels, noEmpty⟩ :=
    split_at_empty (not_not.mp bad)
  have member : ∀ label ∈ goods ++ [] :: rest,
      label ∈ dotLabels (encodeUtf8 name) := fun label among => labels ▸ among
  have fitting : ∀ label ∈ goods, FittingLabel label := by
    intro label among
    have inside := member label (List.mem_append_left _ among)
    refine ⟨?_, read.labels_short label inside, dotLabels_dotless inside⟩
    intro empty
    rw [empty] at among
    exact noEmpty among
  have absent : ∀ suffix, suffix <:+ goods →
      labelPtrs.get? (nameKey (suffix ++ [] :: rest)) = none := by
    intro suffix tail
    cases found : labelPtrs.get? (nameKey (suffix ++ [] :: rest)) with
    | none => rfl
    | some ptr =>
        obtain ⟨spelled, _, same, dotless, cells⟩ := table _ ptr found
        have upperSame := nameKey_injective dotless (fun label among =>
          dotLabels_dotless (member label (by
            rcases List.mem_append.mp among with inside | inside
            · exact List.mem_append_left _ (tail.subset inside)
            · exact List.mem_append_right _ inside))) same
        have present : upper [] ∈ spelled.map upper := by
          rw [upperSame]
          exact List.mem_map_of_mem (by simp)
        obtain ⟨label, among, empty⟩ := List.mem_map.mp present
        have nonempty := (rawLabels_of_spells cells label among).1
        exact absurd (List.map_eq_nil_iff.mp empty) nonempty
  unfold packName at packed
  rw [labels] at packed
  obtain ⟨stop, cells⟩ := packLabels_truncated fitting absent packed
  obtain ⟨spelled, text, _short, cells'⟩ := unpackName_eq_ok.mp readBack
  have same := (cells.extend (cellAt_extends within)).unique cells'
  intro sameName
  have lengths : (encodeUtf8 got).length = (encodeUtf8 name).length := by
    rw [← upper_length, ← encodeUtf8_upToCase, sameName, encodeUtf8_upToCase,
      upper_length]
  have nonempty : goods ++ [] :: rest ≠ [] := by simp
  have whole := joinDots_length nonempty
  rw [← labels, joinDots_dotLabels, labels] at whole
  rw [text, ← same.1] at lengths
  simp only [wireLength, List.map_append, List.sum_append, List.map_cons,
    List.sum_cons] at whole
  by_cases none : goods = []
  · have empty : encodeUtf8 name = [] := by
      rw [none] at lengths
      exact List.eq_nil_of_length_eq_zero lengths.symm
    rw [empty] at labels
    exact absurd labels.symm nonempty
  · have part := joinDots_length none
    unfold wireLength at part
    omega

end DpktNg.Dns
