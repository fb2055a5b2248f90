/-
The timestamp fields that the writers of dpkt/pcap.py and dpkt/snoop.py put in
front of a packet.  The seconds are cut and the fraction is rounded on its own,
so a fraction close to a second is written as a full one.
-/

import DpktNg.Snoop.File

namespace DpktNg

open Library

/-- The fields hold the tick that is nearest to the timestamp, and no second in
the fraction. -/
structure Stamped (perSecond : Nat) (ts : ℚ) (sec fraction : Nat) : Prop where
  fraction_lt : fraction < perSecond
  nearest : (sec * perSecond + fraction : Int) = intround (ts * perSecond)

/-- The fraction is not rounded up to a second. -/
def FractionFits (perSecond : Nat) (ts : ℚ) : Prop :=
  modOne ts * perSecond < perSecond - 1 / 2

def secondsOf (ts : ℚ) : Nat := (truncate ts).toNat

def fractionOf (perSecond : Nat) (ts : ℚ) : Nat :=
  (intround (modOne ts * perSecond)).toNat

section Fields

variable {ts : ℚ}

theorem truncate_eq_secondsOf (nonneg : 0 ≤ ts) :
    truncate ts = (secondsOf ts : Int) := by
  have floor := Int.floor_nonneg.mpr nonneg
  unfold secondsOf
  rw [truncate_of_nonneg nonneg]
  omega

theorem intround_eq_fractionOf (perSecond : Nat) (ts : ℚ) :
    intround (modOne ts * perSecond) = (fractionOf perSecond ts : Int) := by
  have positive : 0 ≤ modOne ts * perSecond :=
    mul_nonneg (modOne_nonneg ts) (Nat.cast_nonneg perSecond)
  have rounded := intround_nonneg positive
  unfold fractionOf
  omega

theorem fractionOf_le {perSecond : Nat} (positive : 0 < perSecond) (ts : ℚ) :
    fractionOf perSecond ts ≤ perSecond := by
  have scale : (0 : ℚ) < perSecond := Nat.cast_pos.mpr positive
  have below : modOne ts * perSecond < ((perSecond : Int) : ℚ) := by
    rw [Int.cast_natCast]
    exact mul_lt_of_lt_one_left scale (modOne_lt_one ts)
  have rounded := intround_le below
  rw [intround_eq_fractionOf] at rounded
  omega

/-- The two fields add up to the nearest tick in any case. -/
theorem stamped_iff {perSecond : Nat} (even : perSecond % 2 = 0)
    (nonneg : 0 ≤ ts) :
    Stamped perSecond ts (secondsOf ts) (fractionOf perSecond ts) ↔
      FractionFits perSecond ts := by
  have evenTicks : (perSecond : Int) % 2 = 0 := by omega
  have roundedUp := @intround_lt_iff (modOne ts * perSecond) _ evenTicks
  rw [intround_eq_fractionOf, Int.cast_natCast] at roundedUp
  have total := seconds_add_rounded even ts
  rw [← truncate_of_nonneg nonneg, truncate_eq_secondsOf nonneg,
    intround_eq_fractionOf] at total
  constructor
  · intro stamped
    have fraction := stamped.fraction_lt
    exact roundedUp.mp (by omega)
  · intro fits
    have fraction := roundedUp.mpr fits
    exact ⟨by omega, total⟩

end Fields

/-- Behind the file the writer puts a header with these fields, and the
packet. -/
def Pcap.Writer.Records (writer : Writer) (pkt : Bytes) (ts : ℚ)
    (hdr : PktHdr) : Prop :=
  ∃ header,
    PktHdr.parse ⟨writer.order, false⟩ header = .ok hdr ∧
      writer.writepktTime pkt ts = .ok (writer.write (header ++ pkt))

/-- The same with the padding of the packet. -/
def Snoop.Writer.Records (writer : Writer) (pkt : Bytes) (ts : ℚ)
    (hdr : PktHdr) : Prop :=
  ∃ header,
    PktHdr.parse header = .ok hdr ∧
      writer.writepktTime pkt ts =
        .ok (writer.write (header ++ pkt ++ zeros (padLen pkt.length)))

section Records

variable {ts : ℚ}

theorem secondsOf_lt (nonneg : 0 ≤ ts) (early : truncate ts + 1 < 2 ^ 32) :
    secondsOf ts < 256 ^ 4 := by
  rw [truncate_eq_secondsOf nonneg] at early
  omega

theorem Pcap.Writer.records {writer : Writer} {pkt : Bytes}
    (nonneg : 0 ≤ ts) (early : truncate ts + 1 < 2 ^ 32)
    (digits : writer.precision ≤ 9) (short : pkt.length < 2 ^ 32) :
    writer.Records pkt ts
      { tvSec := secondsOf ts
        tvUsec := fractionOf writer.precisionMultiplier ts
        caplen := pkt.length, len := pkt.length } := by
  have positive : 0 < writer.precisionMultiplier := Nat.pow_pos (by decide)
  have small : writer.precisionMultiplier ≤ 10 ^ 9 :=
    Nat.pow_le_pow_right (by decide) digits
  have fraction := fractionOf_le positive ts
  have fits : FieldsFit [(4, secondsOf ts),
      (4, fractionOf writer.precisionMultiplier ts), (4, pkt.length),
      (4, pkt.length)] := by
    simp only [fieldsFit_cons, fieldsFit_nil, and_true]
    exact ⟨secondsOf_lt nonneg early, by omega, short, short⟩
  refine ⟨_, PktHdr.parse_fields writer.order fits, ?_⟩
  unfold Writer.writepktTime Writer.packPktHdr unsignedField
  dsimp only
  rw [truncate_eq_secondsOf nonneg, intround_eq_fractionOf,
    if_pos (Int.natCast_nonneg _), ok_bind, if_pos (Int.natCast_nonneg _),
    ok_bind, Int.toNat_natCast, Int.toNat_natCast, writer.order.pack_ok fits,
    ok_bind]

theorem Snoop.Writer.records {pkt : Bytes} (writer : Writer)
    (nonneg : 0 ≤ ts) (early : truncate ts + 1 < 2 ^ 32)
    (short : PktHdr.format.size + pkt.length + padLen pkt.length < 2 ^ 32) :
    writer.Records pkt ts
      { origLen := pkt.length, inclLen := pkt.length
        recLen := PktHdr.format.size + pkt.length + padLen pkt.length
        cumDrops := 0, tsSec := secondsOf ts
        tsUsec := fractionOf precisionMultiplier ts } := by
  have fraction := @fractionOf_le precisionMultiplier (by decide) ts
  have multiplier : precisionMultiplier = 10 ^ 6 := precisionMultiplier_eq
  have fits : PktHdr.format.Fits
      { origLen := pkt.length, inclLen := pkt.length
        recLen := PktHdr.format.size + pkt.length + padLen pkt.length
        cumDrops := 0, tsSec := secondsOf ts
        tsUsec := fractionOf precisionMultiplier ts } :=
    ⟨(by omega : pkt.length < 256 ^ 4), (by omega : pkt.length < 256 ^ 4),
      short, (by decide : 0 < 256 ^ 4), secondsOf_lt nonneg early,
      (by omega : fractionOf precisionMultiplier ts < 256 ^ 4), trivial⟩
  refine ⟨_, bind_eq_ok.mpr
    ⟨_, StructFormat.parsePacket_alone fits "PktHdr", rfl⟩, ?_⟩
  unfold Writer.writepktTime
  dsimp only
  rw [truncate_eq_secondsOf nonneg, intround_eq_fractionOf,
    Writer.packHdr_ok fits, ok_bind]

end Records

/-- Each writer stamps a packet with the nearest tick exactly when the fraction
is not rounded up to a second; and writing many packets at once writes each of
them so. -/
theorem timestamp_fields_iff {ts : ℚ} (nonneg : 0 ≤ ts)
    (early : truncate ts + 1 < 2 ^ 32) :
    (∀ (nano : Bool) (writer : Pcap.Writer) (pkt : Bytes),
      writer.precision = Pcap.precisionOf nano → pkt.length < 2 ^ 32 →
        ∃ hdr, writer.Records pkt ts hdr ∧
          (Stamped (10 ^ writer.precision) ts hdr.tvSec hdr.tvUsec ↔
            FractionFits (10 ^ writer.precision) ts)) ∧
    (∀ (writer : Snoop.Writer) (pkt : Bytes),
      Snoop.PktHdr.format.size + pkt.length + Snoop.padLen pkt.length <
          2 ^ 32 →
        ∃ hdr, writer.Records pkt ts hdr ∧
          (Stamped (10 ^ 6) ts hdr.tsSec hdr.tsUsec ↔
            FractionFits (10 ^ 6) ts)) ∧
    (∀ (writer : Pcap.Writer) (pkts : List (ℚ × Bytes)),
      writer.writepkts pkts = writer.writepktTimes pkts) ∧
    ∀ (writer : Snoop.Writer) (pkts : List (ℚ × Bytes)),
      writer.writepkts pkts = writer.writepktTimes pkts := by
  refine ⟨?_, ?_, ?_, ?_⟩
  · intro nano writer pkt precision short
    have digits : writer.precision ≤ 9 := by
      rw [precision]
      cases nano <;> decide
    have even : 10 ^ writer.precision % 2 = 0 := by
      rw [precision]
      cases nano <;> decide
    exact ⟨_, Pcap.Writer.records nonneg early digits short,
      stamped_iff even nonneg⟩
  · intro writer pkt short
    exact ⟨_, writer.records nonneg early short,
      stamped_iff (by decide) nonneg⟩
  · intro writer pkts
    exact (writer.writepktTimes_eq pkts).symm
  · intro writer pkts
    exact (writer.writepktTimes_eq pkts).symm

/-- Half a second, by a writer of each kind. -/
theorem half_second_stamped :
    (∃ hdr, (Pcap.Writer.mk .big 9 []).Records [1, 2, 3] (1 / 2) hdr ∧
      (Stamped (10 ^ 9) (1 / 2) hdr.tvSec hdr.tvUsec ↔
        FractionFits (10 ^ 9) (1 / 2))) ∧
    ∃ hdr, (Snoop.Writer.mk []).Records [1, 2, 3] (1 / 2) hdr ∧
      (Stamped (10 ^ 6) (1 / 2) hdr.tsSec hdr.tsUsec ↔
        FractionFits (10 ^ 6) (1 / 2)) := by
  have early : truncate (1 / 2) + 1 < 2 ^ 32 := by decide +kernel
  have fields := timestamp_fields_iff (by norm_num) early
  exact ⟨fields.1 true ⟨.big, 9, []⟩ [1, 2, 3] rfl (by decide),
    fields.2.1 ⟨[]⟩ [1, 2, 3] (by decide)⟩

/-- A tenth of a microsecond before the second. -/
theorem full_second_written :
    ¬∀ ts : ℚ, 0 ≤ ts → truncate ts + 1 < 2 ^ 32 →
      ∀ (writer : Pcap.Writer) (pkt : Bytes) (hdr : Pcap.PktHdr),
        writer.precision = 6 → writer.Records pkt ts hdr →
          Stamped (10 ^ writer.precision) ts hdr.tvSec hdr.tvUsec := by
  intro always
  have nonneg : (0 : ℚ) ≤ 9999999 / 10000000 := by norm_num
  have early : truncate (9999999 / 10000000) + 1 < 2 ^ 32 := by
    decide +kernel
  have recorded := @Pcap.Writer.records _ ⟨.little, 6, []⟩ [] nonneg early
    (by decide) (by decide)
  have stamped := always _ nonneg early ⟨.little, 6, []⟩ [] _ rfl recorded
  have full : fractionOf (10 ^ 6) (9999999 / 10000000) = 10 ^ 6 := by
    decide +kernel
  exact absurd stamped.fraction_lt (Nat.not_lt.mpr full.ge)

end DpktNg
