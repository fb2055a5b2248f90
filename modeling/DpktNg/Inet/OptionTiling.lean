/-
Where the options of an IPv6 options header stand.

The loop of dpkt/ip6.py asks of an option only that it begins inside the
header; its length may lead further.
-/

import DpktNg.Inet.ExtensionHeaders
import DpktNg.Library.Walks

namespace DpktNg.Inet

open Library

def ip6OptsHeader : Bytes → Except PyError ExtHdr :=
  packetInit "IP6OptsHeader" (some 2) unpackOptsHeader

def ExtHdr.options : ExtHdr → List Ip6Option
  | .opts _ _ options _ => options
  | _ => []

inductive OptionPiece where
  | pad1
  | padN (optLength : Nat)
  | option (type optLength : Nat)
deriving DecidableEq, Repr

namespace OptionPiece

def size : OptionPiece → Nat
  | .pad1 => 1
  | .padN optLength => optLength + 2
  | .option _ optLength => optLength + 2

def at_ (buf : Bytes) (place : Nat) : Option OptionPiece := do
  let optType ← buf[place]?
  if optType = 0 then some .pad1
  else
    let optLength ← buf[place + 1]?
    if optType = 1 then some (.padN optLength.toNat)
    else some (.option optType.toNat optLength.toNat)

/-- The options among pieces that stand from `place` on, without the pads. -/
def options (buf : Bytes) : Nat → List OptionPiece → List Ip6Option
  | _, [] => []
  | place, .option type optLength :: rest =>
      { type, optLength, data := cut buf (place + 2) (place + 2 + optLength) } ::
        options buf (place + (optLength + 2)) rest
  | place, pad :: rest => options buf (place + pad.size) rest

end OptionPiece

/-- The data is as long as the option says, and stands between the first two
bytes and the end of the header. -/
def Ip6Option.Inside (buf : Bytes) (stop : Nat) (option : Ip6Option) : Prop :=
  option.data.length = option.optLength ∧
    ∃ start, 2 ≤ start ∧ start + option.optLength ≤ stop ∧
      option.data = cut buf start (start + option.optLength)

/-- The options stay inside a header of `stop` bytes, and cover it together
with the pads. -/
structure OptionsInside (buf : Bytes) (stop : Nat)
    (options : List Ip6Option) : Prop where
  inside : ∀ option ∈ options, option.Inside buf stop
  tiled : ∃ pieces, Tiles (OptionPiece.at_ buf) OptionPiece.size 2 pieces stop ∧
    options = OptionPiece.options buf 2 pieces
  present : stop ≤ buf.length

theorem OptionPiece.options_inside {buf : Bytes} {pieces : List OptionPiece}
    {place stop : Nat} (behind : 2 ≤ place) (present : stop ≤ buf.length)
    (tiles : Tiles (at_ buf) size place pieces stop) :
    ∀ option ∈ options buf place pieces, option.Inside buf stop := by
  fun_induction options buf place pieces with
  | case1 place =>
      intro option impossible
      cases impossible
  | case2 place type optLength rest ih =>
      have later : Tiles (at_ buf) size (place + (optLength + 2)) rest stop :=
        tiles.2
      have within := later.le
      refine List.forall_mem_cons.mpr ⟨⟨?_, place + 2, ?_, ?_, rfl⟩, ?_⟩
      · dsimp only
        rw [cut_length_of_le (by omega)]
        omega
      · omega
      · dsimp only
        omega
      · exact ih (by omega) later
  | case3 place pad rest isPad ih => exact ih (by omega) tiles.2

section Pieces

variable {buf : Bytes} {index : Nat}

theorem OptionPiece.at_pad1 (type : (buf.drop 2)[index]? = some 0) :
    at_ buf (2 + index) = some .pad1 := by
  rw [List.getElem?_drop] at type
  unfold at_
  rw [type]
  rfl

theorem OptionPiece.at_padN {optLength : UInt8}
    (type : (buf.drop 2)[index]? = some 1)
    (length : (buf.drop 2)[index + 1]? = some optLength) :
    at_ buf (2 + index) = some (.padN optLength.toNat) := by
  rw [List.getElem?_drop] at type length
  unfold at_
  rw [type, Nat.add_assoc, length]
  rfl

theorem OptionPiece.at_option {optType optLength : UInt8}
    (type : (buf.drop 2)[index]? = some optType) (notPad : optType ≠ 0)
    (notPadN : optType ≠ 1)
    (length : (buf.drop 2)[index + 1]? = some optLength) :
    at_ buf (2 + index) = some (.option optType.toNat optLength.toNat) := by
  rw [List.getElem?_drop] at type length
  unfold at_
  rw [type, Nat.add_assoc, length]
  exact (if_neg notPad).trans (if_neg notPadN)

theorem tiled_step {stop : Nat} {piece : OptionPiece}
    (inside : index < stop)
    (here : OptionPiece.at_ buf (2 + index) = some piece)
    (within : ∀ place, Arrives (OptionPiece.at_ buf) OptionPiece.size (2 + stop)
      (2 + index) place → place ≤ 2 + stop)
    {Behind : List OptionPiece → Prop}
    (later : index + piece.size ≤ stop →
      (∀ place, Arrives (OptionPiece.at_ buf) OptionPiece.size (2 + stop)
        (2 + (index + piece.size)) place → place ≤ 2 + stop) →
      ∃ pieces, Tiles (OptionPiece.at_ buf) OptionPiece.size
        (2 + (index + piece.size)) pieces (2 + stop) ∧ Behind pieces) :
    ∃ rest, Tiles (OptionPiece.at_ buf) OptionPiece.size (2 + index)
      (piece :: rest) (2 + stop) ∧ Behind rest := by
  have step (place : Nat) (arrives : Arrives (OptionPiece.at_ buf)
      OptionPiece.size (2 + stop) (2 + (index + piece.size)) place) :
      place ≤ 2 + stop := by
    rw [← Nat.add_assoc] at arrives
    exact within place (Arrives.step (by omega) here arrives)
  have next := step _ Relation.ReflTransGen.refl
  obtain ⟨rest, tiles, behind⟩ := later (by omega) step
  rw [← Nat.add_assoc] at tiles
  exact ⟨rest, ⟨here, tiles⟩, behind⟩

end Pieces

theorem unpackOptions_tiled {buf : Bytes} {stop index : Nat}
    {found : List Ip6Option} (before : index ≤ stop)
    (read : unpackOptions (buf.drop 2) stop index = .ok found)
    (within : ∀ place, Arrives (OptionPiece.at_ buf) OptionPiece.size (2 + stop)
      (2 + index) place → place ≤ 2 + stop) :
    ∃ pieces, Tiles (OptionPiece.at_ buf) OptionPiece.size (2 + index) pieces
        (2 + stop) ∧
      found = OptionPiece.options buf (2 + index) pieces := by
  fun_induction unpackOptions (buf.drop 2) stop index generalizing found with
  | case1 index inside missing => cases read
  | case2 index inside type ih =>
      obtain ⟨rest, tiles, same⟩ := tiled_step inside
        (OptionPiece.at_pad1 type) within fun before => ih before read
      exact ⟨_, tiles, same⟩
  | case3 index inside optType type notPad missing => cases read
  | case4 index inside optLength length type notPad ih =>
      obtain ⟨rest, tiles, same⟩ := tiled_step inside
        (OptionPiece.at_padN type length) within fun before => ih before read
      refine ⟨_, tiles, ?_⟩
      rw [same, ← Nat.add_assoc]
      rfl
  | case5 index inside optType type notPad optLength length notPadN ih =>
      obtain ⟨others, readOthers, done⟩ := bind_eq_ok.mp read
      rw [Except.ok.injEq] at done
      obtain ⟨rest, tiles, same⟩ := tiled_step inside
        (OptionPiece.at_option type notPad notPadN length) within
        fun before => ih before readOthers
      refine ⟨_, tiles, ?_⟩
      rw [← done, same, OptionPiece.options, cut_drop]
      simp only [Nat.add_assoc]
  | case6 index outside =>
      cases read
      have atEnd : index = stop := by omega
      rw [atEnd]
      exact ⟨[], rfl, rfl⟩

theorem ip6OptsHeader_eq_ok {buf : Bytes} {ext : ExtHdr}
    (parsed : ip6OptsHeader buf = .ok ext) :
    8 ≤ ext.length ∧
      unpackOptions (buf.drop 2) (ext.length - 2) 0 = .ok ext.options := by
  have unpacked := packetInit_eq_ok.mp parsed
  have spelled : unpackOptsHeader buf = _ := @header_bind _ [1, 1] buf _
  rw [spelled] at unpacked
  split at unpacked
  · cases unpacked
  · obtain ⟨options, read, done⟩ := bind_eq_ok.mp unpacked
    cases done
    exact ⟨Nat.le_mul_of_pos_left 8 (Nat.succ_pos _), read⟩

/-- The options stay inside the header and tile it exactly when the buffer holds
the whole header and no piece that begins in it ends behind it. -/
theorem options_inside_iff {buf : Bytes} {ext : ExtHdr}
    (parsed : ip6OptsHeader buf = .ok ext) :
    OptionsInside buf ext.length ext.options ↔
      ext.length ≤ buf.length ∧
        ∀ place, Arrives (OptionPiece.at_ buf) OptionPiece.size ext.length 2
          place → place ≤ ext.length := by
  obtain ⟨long, read⟩ := ip6OptsHeader_eq_ok parsed
  constructor
  · rintro ⟨_inside, ⟨pieces, tiles, _same⟩, present⟩
    exact ⟨present, fun place arrives => tiles.arrives_le arrives⟩
  · rintro ⟨present, within⟩
    have stop : 2 + (ext.length - 2) = ext.length := by omega
    have tiled := @unpackOptions_tiled buf (ext.length - 2) 0 _
      (Nat.zero_le _) read
    rw [stop] at tiled
    obtain ⟨pieces, tiles, same⟩ := tiled within
    refine ⟨?_, ⟨pieces, tiles, same⟩, present⟩
    rw [same]
    exact OptionPiece.options_inside le_rfl present tiles

/-- The header of eight bytes that holds an option of the given length. -/
def oneOption (optLength : UInt8) : Bytes := [59, 0, 5, optLength, 1, 2, 3, 4]

def oneOptionHeader (optLength : UInt8) : ExtHdr :=
  .opts 59 0
    [{ type := 5, optLength := optLength.toNat, data := [1, 2, 3, 4] }]
    [5, optLength, 1, 2, 3, 4]

theorem oneOption_parsed (optLength : UInt8) (large : 4 ≤ optLength.toNat) :
    ip6OptsHeader (oneOption optLength) = .ok (oneOptionHeader optLength) := by
  have data : cut [5, optLength, 1, 2, 3, 4] 2 (2 + optLength.toNat) =
      [1, 2, 3, 4] := by
    unfold cut
    exact List.take_of_length_le (by
      rw [Nat.add_sub_cancel_left]
      exact large)
  have options : unpackOptions [5, optLength, 1, 2, 3, 4] 6 0 =
      .ok [{ type := 5, optLength := optLength.toNat, data := [1, 2, 3, 4] }] := by
    rw [unpackOptions, if_pos (by decide)]
    change (if (5 : UInt8) = 0 then _ else if (5 : UInt8) = 1 then _ else
      unpackOptions _ 6 (0 + (optLength.toNat + 2)) >>= _) = _
    rw [if_neg (by decide), if_neg (by decide), unpackOptions,
      if_neg (by omega), ok_bind]
    rw [Nat.zero_add, data]
    rfl
  apply packetInit_eq_ok.mpr
  change (unpackOptions [5, optLength, 1, 2, 3, 4] 6 0 >>= _) = _
  rw [options]
  rfl

/-- An option of four bytes fills the header. -/
theorem fullOption_inside :
    OptionsInside (oneOption 4) (oneOptionHeader 4).length
      (oneOptionHeader 4).options := by
  have tiles : Tiles (OptionPiece.at_ (oneOption 4)) OptionPiece.size 2
      [.option 5 4] 8 := ⟨rfl, rfl⟩
  exact (options_inside_iff (oneOption_parsed 4 (by decide))).mpr
    ⟨by decide, fun place arrives => tiles.arrives_le arrives⟩

/-- One of ten bytes has only four. -/
theorem longOption_outside :
    ip6OptsHeader (oneOption 10) = .ok (oneOptionHeader 10) ∧
      ¬OptionsInside (oneOption 10) (oneOptionHeader 10).length
        (oneOptionHeader 10).options := by
  refine ⟨oneOption_parsed 10 (by decide), ?_⟩
  intro inside
  have whole := (inside.inside _ List.mem_cons_self).1
  cases whole

end DpktNg.Inet
