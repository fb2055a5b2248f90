/-
The loop of `unpack_name` round by round.

A pointer moves the offset back, and the labels behind it may lead forwards
again over bytes that were read before.  What gets smaller is the start of the
segment that is being read.
-/

import DpktNg.Dns.Name
import DpktNg.Library.Recursion

namespace DpktNg.Dns

open Library

structure NameState where
  off : Nat
  startOff : Nat
  savedOff : Nat
  nameLength : Nat
  name : List Bytes

def nameStart (off : Nat) : NameState where
  off := off
  startOff := off
  savedOff := 0
  nameLength := 0
  name := []

/-- The loop is left with the labels and the offset behind the name, or with an
error. -/
abbrev NameResult := Except PyError (List Bytes × Nat)

/-- A byte that begins a compression pointer. -/
def IsPointer (byte : UInt8) : Prop := byte.toNat &&& 0xc0 = 0xc0

instance : DecidablePred IsPointer := fun byte =>
  inferInstanceAs (Decidable (byte.toNat &&& 0xc0 = 0xc0))

def followed (state : NameState) (ptr : Nat) : NameState :=
  { state with
    off := ptr
    startOff := ptr
    savedOff := if state.savedOff = 0 then state.off + 2 else state.savedOff }

def labelled (buf : Bytes) (state : NameState) (n : Nat) : NameState :=
  { state with
    off := state.off + 1 + n
    nameLength := state.nameLength + (n + 1)
    name := state.name ++ [cut buf (state.off + 1) (state.off + 1 + n)] }

def nameRound (buf : Bytes) (state : NameState) : NameResult ⊕ NameState :=
  match buf[state.off]? with
  | none => .inl (.error (.needData []))
  | some byte =>
      let n := byte.toNat
      if n = 0 then
        .inl (.ok (state.name,
          if state.savedOff = 0 then state.off + 1 else state.savedOff))
      else if IsPointer byte then
        match unpackBe 2 (cut buf state.off (state.off + 2)) with
        | .error problem => .inl (.error problem)
        | .ok word =>
            let ptr := word &&& 0x3fff
            if ptr ≥ state.startOff then
              .inl (.error (.unpackError
                "Invalid label compression pointer".toList))
            else .inr (followed state ptr)
      else if n &&& 0xc0 = 0x00 then
        if state.nameLength + (n + 1) > 255 then
          .inl (.error (.unpackError "name longer than 255 bytes".toList))
        else .inr (labelled buf state n)
      else
        .inl (.error
          (.unpackError ("Invalid label length ".toList ++ hex2 n)))

section Rounds

variable {buf : Bytes} {state next : NameState}

theorem nameRound_goes (goes : nameRound buf state = .inr next) :
    ∃ byte, buf[state.off]? = some byte ∧
      ((IsPointer byte ∧ state.off + 2 ≤ buf.length ∧
          ∃ ptr < state.startOff, next = followed state ptr) ∨
        (¬IsPointer byte ∧ state.nameLength + (byte.toNat + 1) ≤ 255 ∧
          next = labelled buf state byte.toNat)) := by
  unfold nameRound at goes
  cases here : buf[state.off]? with
  | none =>
      rw [here] at goes
      cases goes
  | some byte =>
      rw [here] at goes
      refine ⟨byte, rfl, ?_⟩
      dsimp only at goes
      split at goes
      · cases goes
      · split at goes
        · rename_i pointer
          cases read : unpackBe 2 (cut buf state.off (state.off + 2)) with
          | error problem =>
              rw [read] at goes
              cases goes
          | ok word =>
              rw [read] at goes
              dsimp only at goes
              split at goes
              · cases goes
              · rename_i below
                cases goes
                have size := (unpackBe_eq_ok.mp read).1
                unfold cut at size
                rw [List.length_take, List.length_drop] at size
                exact Or.inl ⟨pointer, by omega, _, by omega, rfl⟩
        · rename_i noPointer
          split at goes
          · split at goes
            · cases goes
            · rename_i short
              cases goes
              exact Or.inr ⟨noPointer, by omega, rfl⟩
          · cases goes

theorem nameRound_returns {labels : List Bytes} {behind : Nat}
    (leaves : nameRound buf state = .inl (.ok (labels, behind))) :
    state.off < buf.length ∧ labels = state.name ∧
      behind =
        if state.savedOff = 0 then state.off + 1 else state.savedOff := by
  unfold nameRound at leaves
  cases here : buf[state.off]? with
  | none =>
      rw [here] at leaves
      cases leaves
  | some byte =>
      obtain ⟨inside, _byte⟩ := List.getElem?_eq_some_iff.mp here
      rw [here] at leaves
      dsimp only at leaves
      split at leaves
      · cases leaves
        exact ⟨inside, rfl, rfl⟩
      · split at leaves
        · split at leaves
          · cases leaves
          · split at leaves <;> cases leaves
        · split at leaves
          · split at leaves <;> cases leaves
          · cases leaves

end Rounds

theorem nameLoop_returns (buf : Bytes) (off startOff savedOff nameLength : Nat)
    (name : List Bytes) (result : NameResult) :
    LoopReturns (nameRound buf)
        { off, startOff, savedOff, nameLength, name } result ↔
      result = unpackLabels buf off startOff savedOff nameLength name := by
  fun_induction unpackLabels buf off startOff savedOff nameLength name with
  | case1 off startOff savedOff nameLength name inside n root =>
      apply loopReturns_done
      unfold nameRound
      rw [List.getElem?_eq_getElem inside]
      exact if_pos root
  | case2 off startOff savedOff nameLength name inside n notRoot isPointer ih =>
      have pointer : IsPointer buf[off] := isPointer
      cases read : unpackBe 2 (cut buf off (off + 2)) with
      | error problem =>
          apply loopReturns_done
          unfold nameRound
          rw [List.getElem?_eq_getElem inside]
          dsimp only
          rw [if_neg notRoot, if_pos pointer, read]
          rfl
      | ok word =>
          rw [ok_bind]
          dsimp only
          split
          · rename_i above
            apply loopReturns_done
            unfold nameRound
            rw [List.getElem?_eq_getElem inside]
            dsimp only
            rw [if_neg notRoot, if_pos pointer, read]
            exact if_pos above
          · rename_i below
            refine (loopReturns_next ?_).trans (ih word below)
            unfold nameRound
            rw [List.getElem?_eq_getElem inside]
            dsimp only
            rw [if_neg notRoot, if_pos pointer, read]
            exact if_neg below
  | case3 off startOff savedOff nameLength name inside n notRoot notPointer
      isLabel longer tooLong =>
      have noPointer : ¬IsPointer buf[off] := notPointer
      apply loopReturns_done
      unfold nameRound
      rw [List.getElem?_eq_getElem inside]
      dsimp only
      rw [if_neg notRoot, if_neg noPointer, if_pos isLabel]
      exact if_pos tooLong
  | case4 off startOff savedOff nameLength name inside n notRoot notPointer
      isLabel label longer short ih =>
      have noPointer : ¬IsPointer buf[off] := notPointer
      refine (loopReturns_next ?_).trans ih
      unfold nameRound
      rw [List.getElem?_eq_getElem inside]
      dsimp only
      rw [if_neg notRoot, if_neg noPointer, if_pos isLabel]
      exact if_neg short
  | case5 off startOff savedOff nameLength name inside n notRoot notPointer
      noLabel =>
      have noPointer : ¬IsPointer buf[off] := notPointer
      apply loopReturns_done
      unfold nameRound
      rw [List.getElem?_eq_getElem inside]
      dsimp only
      rw [if_neg notRoot, if_neg noPointer, if_neg noLabel]
  | case6 off startOff savedOff nameLength name outside =>
      apply loopReturns_done
      unfold nameRound
      rw [List.getElem?_eq_none (Nat.le_of_not_lt outside)]

/-- The variables of the loop for a name that begins at `first`. -/
structure NameState.Sound (buf : Bytes) (first : Nat) (state : NameState) :
    Prop where
  inSegment : state.startOff ≤ state.off
  forwards : state.savedOff = 0 → first ≤ state.off
  saved : state.savedOff ≠ 0 →
    first < state.savedOff ∧ state.savedOff ≤ buf.length
  counted : (state.name.map fun label => label.length + 1).sum ≤
    state.nameLength
  short : state.nameLength ≤ 255

theorem nameStart_sound (buf : Bytes) (off : Nat) :
    (nameStart off).Sound buf off where
  inSegment := le_rfl
  forwards := fun _nothing => le_rfl
  saved := fun something => absurd rfl something
  counted := Nat.zero_le _
  short := Nat.zero_le _

theorem NameState.Sound.round {buf : Bytes} {first : Nat}
    {state next : NameState} (sound : state.Sound buf first)
    (goes : nameRound buf state = .inr next) : next.Sound buf first := by
  obtain ⟨byte, here, ⟨_pointer, inside, ptr, _below, rfl⟩ |
    ⟨_noPointer, short, rfl⟩⟩ := nameRound_goes goes
  · have saved := sound.saved
    have forwards := sound.forwards
    refine ⟨le_rfl, ?_, ?_, sound.counted, sound.short⟩
    · unfold followed
      dsimp only
      split <;> omega
    · unfold followed
      dsimp only
      split <;> omega
  · have inSegment := sound.inSegment
    have forwards := sound.forwards
    have counted := sound.counted
    refine ⟨?_, ?_, sound.saved, ?_, short⟩
    · unfold labelled
      dsimp only
      omega
    · unfold labelled
      dsimp only
      omega
    · have size : (cut buf (state.off + 1)
          (state.off + 1 + byte.toNat)).length ≤ byte.toNat := by
        unfold cut
        rw [List.length_take]
        omega
      unfold labelled
      dsimp only
      rw [List.map_append, List.sum_append, List.map_singleton,
        List.sum_singleton]
      omega

/-- How the loop moves: a pointer leads below the start of its segment, and a
label leads forwards in the same one. -/
structure Moves (byte : UInt8) (state next : NameState) : Prop where
  inSegment : state.startOff ≤ state.off
  below : IsPointer byte → next.off < state.startOff ∧ next.startOff = next.off
  forwards : ¬IsPointer byte →
    state.off < next.off ∧ next.startOff = state.startOff

theorem moves_of_round {buf : Bytes} {first : Nat} {state next : NameState}
    (sound : state.Sound buf first) (goes : nameRound buf state = .inr next) :
    ∃ byte, buf[state.off]? = some byte ∧ Moves byte state next := by
  obtain ⟨byte, here, ⟨pointer, _inside, ptr, below, rfl⟩ |
    ⟨noPointer, _short, rfl⟩⟩ := nameRound_goes goes
  · exact ⟨byte, here, sound.inSegment, fun _pointer => ⟨below, rfl⟩,
      fun impossible => absurd pointer impossible⟩
  · refine ⟨byte, here, sound.inSegment,
      fun impossible => absurd impossible noPointer, fun _noPointer => ?_⟩
    unfold labelled
    dsimp only
    exact ⟨by omega, rfl⟩

theorem nameLoop_found {buf : Bytes} {off behind : Nat} {labels : List Bytes}
    (returned : LoopReturns (nameRound buf) (nameStart off)
      (.ok (labels, behind))) :
    off < behind ∧ behind ≤ buf.length ∧
      (labels.map fun label => label.length + 1).sum ≤ 255 := by
  refine @LoopReturns.invariant _ _ (nameRound buf) (nameStart off) _
    (NameState.Sound buf off)
    (fun result => ∀ {labels behind}, result = .ok (labels, behind) →
      off < behind ∧ behind ≤ buf.length ∧
        (labels.map fun label => label.length + 1).sum ≤ 255)
    ?_ (fun sound goes => sound.round goes) returned (nameStart_sound buf off)
    _ _ rfl
  rintro state result sound leaves labels behind rfl
  obtain ⟨inside, rfl, rfl⟩ := nameRound_returns leaves
  have forwards := sound.forwards
  have saved := sound.saved
  have counted := sound.counted
  have short := sound.short
  refine ⟨?_, ?_, by omega⟩
  · split <;> omega
  · split <;> omega

/-- The loop is left whatever the bytes, every pointer that it follows leads
below its segment, and a returned name ends inside the buffer and is short. -/
theorem unpackName_terminates (buf : Bytes) (off : Nat) :
    (∃ result, LoopReturns (nameRound buf) (nameStart off) result) ∧
      (∀ state next, Reaches (nameRound buf) (nameStart off) state →
        nameRound buf state = .inr next →
          ∃ byte, buf[state.off]? = some byte ∧ Moves byte state next) ∧
      ∀ text behind, unpackName buf off = .ok (text, behind) →
        off < behind ∧ behind ≤ buf.length ∧
          ∃ labels, LoopReturns (nameRound buf) (nameStart off)
              (.ok (labels, behind)) ∧
            decodeUtf8 (joinDots labels) = some text ∧
            (labels.map fun label => label.length + 1).sum ≤ 255 := by
  have returns := nameLoop_returns buf off off 0 0 []
  refine ⟨⟨_, (returns _).mpr rfl⟩, ?_, ?_⟩
  · intro state next reached goes
    have sound := @Reaches.invariant _ _ _ _ _ (NameState.Sound buf off)
      (fun sound goes => sound.round goes) reached (nameStart_sound buf off)
    exact moves_of_round sound goes
  · intro text behind unpacked
    unfold unpackName at unpacked
    obtain ⟨⟨labels, found⟩, loop, decoded⟩ := bind_eq_ok.mp unpacked
    have returned := (returns _).mpr loop.symm
    dsimp only at decoded
    cases spelled : decodeUtf8 (joinDots labels) with
    | none =>
        rw [spelled] at decoded
        cases decoded
    | some found =>
        rw [spelled] at decoded
        cases decoded
        obtain ⟨further, inside, short⟩ := nameLoop_found returned
        exact ⟨further, inside, labels, returned, spelled, short⟩

end DpktNg.Dns
