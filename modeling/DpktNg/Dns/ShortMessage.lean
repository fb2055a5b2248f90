/-
Messages of at most 16384 bytes.  Every offset in `label_ptrs` is behind the
output, so in a short message all pointers fit in fourteen bits and the round
trip holds without a condition on the run of the packer.
-/

import DpktNg.Dns.RoundTrip

namespace DpktNg.Dns

open Library

def TableBelow (labelPtrs : LabelPtrs) (bound : Nat) : Prop :=
  ∀ key ptr, labelPtrs.get? key = some ptr → ptr < bound

theorem TableBelow.raise {labelPtrs : LabelPtrs} {bound higher : Nat}
    (below : TableBelow labelPtrs bound) (le : bound ≤ higher) :
    TableBelow labelPtrs higher := fun key ptr found =>
  Nat.lt_of_lt_of_le (below key ptr found) le

/-- When the output from `off` on stays short, refusing high pointers makes no
difference to what is packed there. -/
def SameIfShort (off : Nat) (labelPtrs : LabelPtrs)
    (pack : (Nat → Except PyError Bytes) → Except PyError (Bytes × LabelPtrs)) :
    Prop :=
  ∀ written labelPtrs', pack packPointer = .ok (written, labelPtrs') →
    TableBelow labelPtrs off → off + written.length ≤ 0x4000 →
      pack lowPointer = .ok (written, labelPtrs') ∧
        TableBelow labelPtrs' (off + written.length)

theorem packLabels_short {off : Nat} {labels : List Bytes} {buf buf' : Bytes}
    {labelPtrs labelPtrs' : LabelPtrs}
    (packed : packLabels packPointer off buf labelPtrs labels =
      .ok (buf', labelPtrs'))
    (below : TableBelow labelPtrs (off + buf.length))
    (short : off + buf'.length ≤ 0x4000) :
    packLabels lowPointer off buf labelPtrs labels = .ok (buf', labelPtrs') ∧
      TableBelow labelPtrs' (off + buf'.length) := by
  have longer := (packLabels_begins packed).length_le
  induction labels generalizing buf labelPtrs with
  | nil =>
      rw [packLabels, Except.ok.injEq, Prod.mk.injEq] at packed ⊢
      rw [← packed.1, ← packed.2]
      exact ⟨⟨rfl, rfl⟩, below⟩
  | cons label rest ih =>
      cases found : labelPtrs.get? (upper (joinDots (label :: rest))) with
      | some ptr =>
          rw [packLabels_cons_found found] at packed ⊢
          obtain ⟨written, pointed, done⟩ := bind_eq_ok.mp packed
          have inside := below _ ptr found
          have low : lowPointer ptr = packPointer ptr := by
            unfold lowPointer
            rw [if_pos (by omega)]
          rw [low, pointed, ok_bind]
          rw [Except.ok.injEq, Prod.mk.injEq] at done
          rw [← done.2]
          exact ⟨by rw [done.1], below.raise (by omega)⟩
      | none =>
          rw [packLabels_cons_absent found] at packed ⊢
          obtain ⟨size, packedSize, packedRest⟩ := bind_eq_ok.mp packed
          have one : size.length = 1 := by
            rw [(packBe_eq_ok packedSize).2, beBytes_length]
          rw [packedSize, ok_bind]
          have longerRest := (packLabels_begins packedRest).length_le
          refine ih packedRest ?_ longerRest
          intro key ptr here
          simp only [List.length_append, one]
          split at here
          · by_cases same : key = upper (joinDots (label :: rest))
            · rw [same, Dict.get?_set_same, Option.some.injEq] at here
              omega
            · rw [Dict.get?_set_other _ _ same] at here
              have inside := below key ptr here
              omega
          · have inside := below key ptr here
            omega

theorem packName_short (name : PyStr) (off : Nat) (labelPtrs : LabelPtrs) :
    SameIfShort off labelPtrs fun pointer =>
      packName pointer name off labelPtrs :=
  fun _written _labelPtrs' packed below short =>
    packLabels_short packed (by simpa using below) short

namespace SameIfShort

variable {off : Nat} {labelPtrs : LabelPtrs}

theorem const (packed : Except PyError Bytes) :
    SameIfShort off labelPtrs fun _pointer =>
      packed >>= fun bytes => .ok (bytes, labelPtrs) := by
  intro written labelPtrs' done below _short
  refine ⟨done, ?_⟩
  obtain ⟨bytes, _packed, same⟩ := bind_eq_ok.mp done
  rw [Except.ok.injEq, Prod.mk.injEq] at same
  rw [← same.2]
  exact below.raise (Nat.le_add_right _ _)

theorem given {α : Type} (value : Except PyError α)
    {pack : α → (Nat → Except PyError Bytes) →
      Except PyError (Bytes × LabelPtrs)}
    (each : ∀ a, value = .ok a → SameIfShort off labelPtrs (pack a)) :
    SameIfShort off labelPtrs fun pointer =>
      value >>= fun a => pack a pointer := by
  intro written labelPtrs' packed below short
  obtain ⟨a, present, packed⟩ := bind_eq_ok.mp packed
  simp only [present, ok_bind]
  exact each a present written labelPtrs' packed below short

theorem append
    {first : (Nat → Except PyError Bytes) → Except PyError (Bytes × LabelPtrs)}
    {second : Bytes → LabelPtrs → (Nat → Except PyError Bytes) →
      Except PyError (Bytes × LabelPtrs)}
    (sameFirst : SameIfShort off labelPtrs first)
    (sameSecond : ∀ written labelPtrs', SameIfShort (off + written.length)
      labelPtrs' (second written labelPtrs')) :
    SameIfShort off labelPtrs fun pointer =>
      first pointer >>= fun written =>
        second written.1 written.2 pointer >>= fun behind =>
          .ok (written.1 ++ behind.1, behind.2) := by
  intro both labelPtrs' packed below short
  obtain ⟨⟨written, labelPtrs₁⟩, packedFirst, packed⟩ := bind_eq_ok.mp packed
  obtain ⟨⟨behind, labelPtrs₂⟩, packedSecond, done⟩ := bind_eq_ok.mp packed
  rw [Except.ok.injEq, Prod.mk.injEq] at done
  change written ++ behind = both ∧ labelPtrs₂ = labelPtrs' at done
  rw [← done.1, List.length_append] at short
  obtain ⟨lowFirst, below₁⟩ :=
    sameFirst written labelPtrs₁ packedFirst below (by omega)
  obtain ⟨lowSecond, below₂⟩ := sameSecond written labelPtrs₁ behind
    labelPtrs₂ packedSecond below₁ (by omega)
  constructor
  · simp only [lowFirst, ok_bind, lowSecond, done.1, done.2]
  · rw [← done.1, ← done.2, List.length_append, ← Nat.add_assoc]
    exact below₂

end SameIfShort

theorem soa_short (rr : RR) (off : Nat) (labelPtrs : LabelPtrs) :
    SameIfShort off labelPtrs fun pointer => (do
      let (mname, labelPtrs) ←
        packName pointer (← getAttribute rr.mname) off labelPtrs
      let (rname, labelPtrs) ← packName pointer (← getAttribute rr.rname)
        (off + mname.length) labelPtrs
      let numbers ← packFields
        [(4, ← getAttribute rr.serial), (4, ← getAttribute rr.refresh),
          (4, ← getAttribute rr.retry), (4, ← getAttribute rr.expire),
          (4, ← getAttribute rr.minimum)]
      .ok (mname ++ rname ++ numbers, labelPtrs)) := by
  intro written labelPtrs' packed below short
  obtain ⟨mname, hasMname, packed⟩ := bind_eq_ok.mp packed
  obtain ⟨⟨first, labelPtrs₁⟩, packedFirst, packed⟩ := bind_eq_ok.mp packed
  obtain ⟨rname, hasRname, packed⟩ := bind_eq_ok.mp packed
  obtain ⟨⟨second, labelPtrs₂⟩, packedSecond, numbers⟩ := bind_eq_ok.mp packed
  obtain ⟨serial, _s, packed⟩ := bind_eq_ok.mp numbers
  obtain ⟨refresh, _r, packed⟩ := bind_eq_ok.mp packed
  obtain ⟨retry, _t, packed⟩ := bind_eq_ok.mp packed
  obtain ⟨expire, _e, packed⟩ := bind_eq_ok.mp packed
  obtain ⟨minimum, _m, packed⟩ := bind_eq_ok.mp packed
  obtain ⟨fields, _f, done⟩ := bind_eq_ok.mp packed
  have done : first ++ second ++ fields = written ∧ labelPtrs₂ = labelPtrs' :=
    Prod.mk.inj (Except.ok.inj done)
  have length : written.length = first.length + second.length + fields.length := by
    rw [← done.1, List.length_append, List.length_append]
  obtain ⟨lowFirst, below₁⟩ :=
    packName_short mname off labelPtrs first labelPtrs₁ packedFirst below
      (by omega)
  obtain ⟨lowSecond, below₂⟩ :=
    packName_short rname (off + first.length) labelPtrs₁ second labelPtrs₂
      packedSecond below₁ (by omega)
  constructor
  · simp only [hasMname, ok_bind, lowFirst, hasRname, lowSecond]
    exact numbers
  · rw [← done.2]
    exact below₂.raise (by omega)

theorem packRdata_short (rr : RR) (off : Nat) (labelPtrs : LabelPtrs) :
    SameIfShort off labelPtrs fun pointer =>
      packRdata pointer rr off labelPtrs := by
  have named : ∀ (attribute_ : Option PyStr),
      SameIfShort off labelPtrs fun pointer =>
        getAttribute attribute_ >>= fun name =>
          packName pointer name off labelPtrs := fun attribute_ =>
    .given _ fun name _present => packName_short name off labelPtrs
  unfold packRdata
  by_cases kept : rr.rdata ≠ []
  · simp only [if_pos kept]
    exact .const (.ok rr.rdata)
  simp only [if_neg kept]
  by_cases a : rr.type = dnsA
  · simp only [if_pos a]
    exact .const (getAttribute rr.ip)
  simp only [if_neg a]
  by_cases ns : rr.type = dnsNs
  · simp only [if_pos ns]
    exact named rr.nsname
  simp only [if_neg ns]
  by_cases cname : rr.type = dnsCname
  · simp only [if_pos cname]
    exact named rr.cname
  simp only [if_neg cname]
  by_cases ptr : rr.type = dnsPtr
  · simp only [if_pos ptr]
    exact named rr.ptrname
  simp only [if_neg ptr]
  by_cases soa : rr.type = dnsSoa
  · simp only [if_pos soa]
    exact soa_short rr off labelPtrs
  simp only [if_neg soa]
  by_cases mx : rr.type = dnsMx
  · simp only [if_pos mx]
    refine .given _ fun value _given => .given _ fun preference packed =>
      .given _ fun name _present => ?_
    have two : preference.length = 2 := by
      cases value with
      | int value => rw [(packBe_eq_ok packed).2, beBytes_length]
      | tuple values => cases packed
    rw [← two]
    exact .append (.const (.ok preference)) fun first labelPtrs' =>
      packName_short name (off + first.length) labelPtrs'
  simp only [if_neg mx]
  by_cases txt : rr.type = dnsTxt ∨ rr.type = dnsHinfo
  · simp only [if_pos txt]
    exact .given _ fun items _given => .given _ fun packed _packed =>
      .const (.ok packed.flatten)
  simp only [if_neg txt]
  by_cases aaaa : rr.type = dnsAaaa
  · simp only [if_pos aaaa]
    exact .const (getAttribute rr.ip6)
  simp only [if_neg aaaa]
  by_cases srv : rr.type = dnsSrv
  · simp only [if_pos srv]
    refine .given _ fun priority _p => .given _ fun weight _w =>
      .given _ fun port _q => .given _ fun numbers packed =>
        .given _ fun name _present => ?_
    have six : numbers.length = 6 := packFields_length packed
    rw [← six]
    exact .append (.const (.ok numbers)) fun first labelPtrs' =>
      packName_short name (off + first.length) labelPtrs'
  simp only [if_neg srv]
  by_cases opt : rr.type = dnsOpt
  · simp only [if_pos opt]
    exact .const (.ok [])
  simp only [if_neg opt]
  exact .const (.error _)

/-- One step of a packing loop: the output grows, and in a short message it is
the same without high pointers. -/
structure ShortStep {Item : Type}
    (pack : (Nat → Except PyError Bytes) → Writer UInt8 LabelPtrs Item PyError)
    (item : Item) : Prop where
  grows : ∀ out labelPtrs out' labelPtrs',
    pack packPointer out labelPtrs item = .ok (out', labelPtrs') →
      out.length ≤ out'.length
  same : ∀ out labelPtrs out' labelPtrs',
    pack packPointer out labelPtrs item = .ok (out', labelPtrs') →
      TableBelow labelPtrs out.length → out'.length ≤ 0x4000 →
        pack lowPointer out labelPtrs item = .ok (out', labelPtrs') ∧
          TableBelow labelPtrs' out'.length

section Loops

variable {Item : Type}
  {pack : (Nat → Except PyError Bytes) → Writer UInt8 LabelPtrs Item PyError}

theorem writeAll_grows {items : List Item}
    (each : ∀ item, ShortStep pack item) {out out' : Bytes}
    {labelPtrs labelPtrs' : LabelPtrs}
    (packed : writeAll (pack packPointer) out labelPtrs items =
      .ok (out', labelPtrs')) : out.length ≤ out'.length := by
  induction items generalizing out labelPtrs with
  | nil =>
      rw [writeAll, Except.ok.injEq, Prod.mk.injEq] at packed
      rw [packed.1]
  | cons item rest ih =>
      obtain ⟨⟨middle, between⟩, first, remaining⟩ := bind_eq_ok.mp packed
      exact ((each item).grows _ _ _ _ first).trans (ih remaining)

theorem writeAll_short {items : List Item}
    (each : ∀ item, ShortStep pack item) {out out' : Bytes}
    {labelPtrs labelPtrs' : LabelPtrs}
    (packed : writeAll (pack packPointer) out labelPtrs items =
      .ok (out', labelPtrs'))
    (below : TableBelow labelPtrs out.length) (short : out'.length ≤ 0x4000) :
    writeAll (pack lowPointer) out labelPtrs items = .ok (out', labelPtrs') ∧
      TableBelow labelPtrs' out'.length := by
  induction items generalizing out labelPtrs with
  | nil =>
      rw [writeAll, Except.ok.injEq, Prod.mk.injEq] at packed ⊢
      rw [← packed.1, ← packed.2]
      exact ⟨⟨rfl, rfl⟩, below⟩
  | cons item rest ih =>
      obtain ⟨⟨middle, between⟩, first, remaining⟩ := bind_eq_ok.mp packed
      have longer := writeAll_grows each remaining
      obtain ⟨low, belowMiddle⟩ :=
        (each item).same _ _ _ _ first below (by omega)
      rw [writeAll, low, ok_bind]
      exact ih remaining belowMiddle

end Loops

theorem packQ_shortStep (q : Q) : ShortStep packQ q := by
  constructor
  · intro out labelPtrs out' labelPtrs' packed
    exact (packQ_begins packed).length_le
  · intro out labelPtrs out' labelPtrs' packed below short
    obtain ⟨name, fields, packedName, packedFields, shape⟩ :=
      packQ_eq_ok packed
    have length : out'.length = out.length + name.length + fields.length := by
      rw [← shape, List.length_append, List.length_append]
    obtain ⟨low, belowName⟩ := packName_short q.name out.length labelPtrs name
      labelPtrs' packedName below (by omega)
    constructor
    · simp only [packQ, low, ok_bind, packedFields, shape]
    · exact belowName.raise (by omega)

theorem packRr_shortStep (rr : RR) : ShortStep packRr rr := by
  constructor
  · intro out labelPtrs out' labelPtrs' packed
    exact (packRr_begins packed).length_le
  · intro out labelPtrs out' labelPtrs' packed below short
    obtain ⟨name, labelPtrs₁, rdata, fields, packedName, packedRdata,
      packedFields, shape⟩ := packRr_eq_ok packed
    have ten : fields.length = 10 := packFields_length packedFields
    have length : out'.length =
        out.length + name.length + 10 + rdata.length := by
      rw [← shape, List.length_append, List.length_append, List.length_append,
        ten]
    obtain ⟨lowName, belowName⟩ := packName_short rr.name out.length labelPtrs
      name labelPtrs₁ packedName below (by omega)
    obtain ⟨lowRdata, belowRdata⟩ := packRdata_short rr _ labelPtrs₁ rdata
      labelPtrs' packedRdata (belowName.raise (by omega)) (by omega)
    constructor
    · simp only [packRr, lowName, ok_bind, lowRdata, packedFields, shape]
    · exact belowRdata.raise (by omega)

/-- A message of at most 16384 bytes needs no pointer beyond fourteen bits. -/
theorem DNS.pointersFit_of_short {dns : DNS} {out : Bytes}
    (packed : dns.bytes = .ok out) (short : out.length ≤ 0x4000) :
    dns.PointersFit := by
  intro _returned
  obtain ⟨header, out₁, labelPtrs₁, out₂, labelPtrs₂, out₃, labelPtrs₃, _,
    packedHeader, packedQd, packedAn, packedNs, packedAr⟩ :=
      DNS.bytesWith_eq_ok packed
  have grows₂ := writeAll_grows packRr_shortStep packedAn
  have grows₃ := writeAll_grows packRr_shortStep packedNs
  have grows₄ := writeAll_grows packRr_shortStep packedAr
  obtain ⟨lowQd, below₁⟩ := writeAll_short packQ_shortStep packedQd
    (fun key ptr found => nomatch found) (by omega)
  obtain ⟨lowAn, below₂⟩ :=
    writeAll_short packRr_shortStep packedAn below₁ (by omega)
  obtain ⟨lowNs, below₃⟩ :=
    writeAll_short packRr_shortStep packedNs below₂ (by omega)
  obtain ⟨lowAr, _below₄⟩ :=
    writeAll_short packRr_shortStep packedAr below₃ short
  unfold DNS.bytesWith
  simp only [packedHeader, ok_bind, lowQd, lowAn, lowNs, lowAr]
  rfl

/-- Messages of at most 16384 bytes come back up to ASCII case. -/
theorem DNS.short_round_trip {dns : DNS} (wellFormed : dns.WellFormed)
    {out : Bytes} (packed : dns.bytes = .ok out)
    (short : out.length ≤ 0x4000) :
    ∃ got, DNS.parse out = .ok got ∧ SameMessage dns got := by
  have fit : dns.PointersFit := DNS.pointersFit_of_short packed short
  exact parse_of_bytesWith wellFormed (fit.packed packed)

end DpktNg.Dns
