/-
The tags and labels between an Ethernet header and its data, dpkt/ethernet.py:
802.1Q tags, the Cisco ISL header and MPLS labels, and the first part of
`_unpack_data`, which takes a stack of them off a buffer.
-/

import DpktNg.Python.Struct

namespace DpktNg.Link

open Library

def ethTypeIp : Nat := 0x0800
def ethType8021Q : Nat := 0x8100
def ethType8021AD : Nat := 0x88a8
def ethTypeQinQ1 : Nat := 0x9100
def ethTypeQinQ2 : Nat := 0x9200
def ethTypeIpx : Nat := 0x8137
def ethTypeIp6 : Nat := 0x86dd
def ethTypeMpls : Nat := 0x8847
def ethTypeMplsMcast : Nat := 0x8848
def ethTypeTeb : Nat := 0x6558

def ethTypesQinQ : List Nat :=
  [ethType8021Q, ethType8021AD, ethTypeQinQ1, ethTypeQinQ2]

def ethTypesMpls : List Nat := [ethTypeMpls, ethTypeMplsMcast]

structure VLANtag8021Q where
  priCfiId : Nat
  type : Nat
deriving DecidableEq, Repr

structure VLANtagISL where
  da : Bytes
  typePri : Nat
  sa : Bytes
  len : Nat
  snap : Bytes
  hsa : Bytes
  idBpdu : Nat
  indx : Nat
  res : Nat
deriving DecidableEq, Repr

structure MPLSlabel where
  valExpSTtl : Nat
deriving DecidableEq, Repr

/-- The attribute `s`, the flag of the bottom of the stack. -/
def MPLSlabel.s (self : MPLSlabel) : Nat := self.valExpSTtl / 2 ^ 8 % 2

def VLANtag8021Q.unpack (buf : Bytes) : Except PyError VLANtag8021Q := do
  let (header, _) ← takeHeader 4 buf
  let [priCfiId, type] ← unpackFields [2, 2] header | .error .structError
  .ok { priCfiId, type }

def VLANtagISL.unpack (buf : Bytes) : Except PyError VLANtagISL := do
  let (header, _) ← takeHeader 26 buf
  .ok
    { da := cut header 0 5
      typePri := beNat (cut header 5 6)
      sa := cut header 6 12
      len := beNat (cut header 12 14)
      snap := cut header 14 17
      hsa := cut header 17 20
      idBpdu := beNat (cut header 20 22)
      indx := beNat (cut header 22 24)
      res := beNat (cut header 24 26) }

def MPLSlabel.unpack (buf : Bytes) : Except PyError MPLSlabel := do
  let (header, _) ← takeHeader 4 buf
  let [valExpSTtl] ← unpackFields [4] header | .error .structError
  .ok { valExpSTtl }

def VLANtag8021Q.parse : Bytes → Except PyError VLANtag8021Q :=
  packetInit "VLANtag8021Q" (some 4) VLANtag8021Q.unpack

def VLANtagISL.parse : Bytes → Except PyError VLANtagISL :=
  packetInit "VLANtagISL" (some 26) VLANtagISL.unpack

def MPLSlabel.parse : Bytes → Except PyError MPLSlabel :=
  packetInit "MPLSlabel" (some 4) MPLSlabel.unpack

/-- `for _ in range(count): entry = parse(buf); buf = buf[4:]`, left after an
entry that is the last one. -/
def readStack {Entry : Type} (parse : Bytes → Except PyError Entry)
    (isLast : Entry → Bool) : Nat → Bytes → Except PyError (List Entry × Bytes)
  | 0, buf => .ok ([], buf)
  | count + 1, buf => do
      let entry ← parse buf
      if isLast entry then .ok ([entry], buf.drop 4)
      else
        let (entries, rest) ← readStack parse isLast count (buf.drop 4)
        .ok (entry :: entries, rest)

/-- What the first part of `_unpack_data` finds. -/
inductive Stack where
  | none
  | vlan (tags : List VLANtag8021Q)
  | mpls (labels : List MPLSlabel)
deriving DecidableEq, Repr

/-- The type and the data behind a label stack, guessed from the first byte;
there may be none. -/
def guessType (nextType : Nat) (buf : Bytes) : Except PyError (Nat × Bytes) :=
  match buf with
  | [] => .error .indexError
  | byte :: _ =>
      if byte = 0x45 then .ok (ethTypeIp, buf)
      else if byte &&& 0xf0 = 0x60 then .ok (ethTypeIp6, buf)
      else if buf.length ≥ 14 then
        .ok (ethTypeTeb, if buf.take 2 = [0, 0] then buf.drop 4 else buf)
      else .ok (nextType, buf)

/-- The tags or labels that `_next_type` announces, the next `_next_type`, and
the data behind them. -/
def stripStack (nextType : Option Nat) (buf : Bytes) :
    Except PyError (Stack × Option Nat × Bytes) :=
  match nextType with
  | none => .ok (.none, none, buf)
  | some type =>
      if type ∈ ethTypesQinQ then do
        let (tags, rest) ← readStack VLANtag8021Q.parse
          (fun tag => tag.type ≠ ethType8021Q) 2 buf
        .ok (.vlan tags, tags.getLast?.map fun tag => tag.type, rest)
      else if type ∈ ethTypesMpls then do
        let (labels, rest) ← readStack MPLSlabel.parse
          (fun label => label.s = 1) 24 buf
        let (guessed, data) ← guessType type rest
        .ok (.mpls labels, some guessed, data)
      else .ok (.none, nextType, buf)

theorem headerParse_eq {Entry : Type} {className : String}
    {unpack : Bytes → Except PyError Entry} {entry : Bytes → Entry}
    (unpacks : ∀ buf, unpack buf =
      if buf.length < 4 then .error .structError else .ok (entry buf))
    (buf : Bytes) :
    packetInit className (some 4) unpack buf =
      if buf.length < 4 then .error (.tooShort buf.length 4)
      else .ok (entry buf) := by
  unfold packetInit
  rw [unpacks]
  by_cases short : buf.length < 4
  · simp only [if_pos short]
  · simp only [if_neg short]

def tagAt (buf : Bytes) : VLANtag8021Q :=
  { priCfiId := beNat (cut buf 0 2), type := beNat (cut buf 2 4) }

def labelAt (buf : Bytes) : MPLSlabel :=
  { valExpSTtl := beNat (cut buf 0 4) }

theorem VLANtag8021Q.parse_eq (buf : Bytes) :
    VLANtag8021Q.parse buf =
      if buf.length < 4 then .error (.tooShort buf.length 4)
      else .ok (tagAt buf) := by
  apply headerParse_eq
  intro buf
  unfold VLANtag8021Q.unpack takeHeader
  split
  · rfl
  · rename_i enough
    rw [ok_bind]
    dsimp only
    rw [show buf.take 4 = buf.take [2, 2].sum from rfl,
      unpackFields_take (by change 4 ≤ _; omega), ok_bind]
    simp [fieldValues, tagAt, cut, List.take_take, List.drop_take]

theorem MPLSlabel.parse_eq (buf : Bytes) :
    MPLSlabel.parse buf =
      if buf.length < 4 then .error (.tooShort buf.length 4)
      else .ok (labelAt buf) := by
  apply headerParse_eq
  intro buf
  unfold MPLSlabel.unpack takeHeader
  split
  · rfl
  · rename_i enough
    rw [ok_bind]
    dsimp only
    rw [show buf.take 4 = buf.take [4].sum from rfl,
      unpackFields_take (by change 4 ≤ _; omega), ok_bind]
    simp [fieldValues, labelAt, cut, List.take_take]

theorem VLANtagISL.parse_short {buf : Bytes} (short : buf.length < 26) :
    VLANtagISL.parse buf = .error (.tooShort buf.length 26) := by
  unfold VLANtagISL.parse packetInit VLANtagISL.unpack takeHeader
  rw [if_pos short]
  change (if buf.length < 26 then _ else _) = _
  rw [if_pos short]

theorem VLANtagISL.parse_whole {buf : Bytes} (whole : 26 ≤ buf.length) :
    ∃ tag, VLANtagISL.parse buf = .ok tag := by
  unfold VLANtagISL.parse packetInit VLANtagISL.unpack takeHeader
  rw [if_neg (by omega)]
  exact ⟨_, rfl⟩

section Stacks

variable {Entry : Type} {parse : Bytes → Except PyError Entry}
  {entry : Bytes → Entry} {isLast : Entry → Bool}

theorem readStack_raisesOnly
    (parses : ∀ buf, parse buf = if buf.length < 4 then
      .error (.tooShort buf.length 4) else .ok (entry buf))
    (count : Nat) (buf : Bytes) :
    RaisesOnly PyError.IsUnpackError (readStack parse isLast count buf) := by
  induction count generalizing buf with
  | zero => exact raisesOnly_ok _
  | succ count ih =>
      rw [readStack, parses]
      split
      · exact raisesOnly_error.mpr trivial
      · rw [ok_bind]
        split
        · exact raisesOnly_ok _
        · exact (ih (buf.drop 4)).bind fun _ _ => raisesOnly_ok _

theorem readStack_suffix {count : Nat} {buf rest : Bytes}
    {entries : List Entry}
    (read : readStack parse isLast count buf = .ok (entries, rest)) :
    rest <:+ buf := by
  induction count generalizing buf entries with
  | zero =>
      rw [readStack, Except.ok.injEq, Prod.mk.injEq] at read
      rw [read.2]
  | succ count ih =>
      obtain ⟨first, _parsed, remaining⟩ := bind_eq_ok.mp read
      split at remaining
      · rw [Except.ok.injEq, Prod.mk.injEq] at remaining
        rw [← remaining.2]
        exact List.drop_suffix 4 buf
      · obtain ⟨⟨others, behind⟩, readOthers, done⟩ :=
          bind_eq_ok.mp remaining
        rw [Except.ok.injEq, Prod.mk.injEq] at done
        rw [done.2] at readOthers
        exact (ih readOthers).trans (List.drop_suffix 4 buf)

end Stacks

/-- The flag of the label number `index` in a stack. -/
def bottomFlag (buf : Bytes) (index : Nat) : Nat :=
  (labelAt (buf.drop (4 * index))).s

/-- A buffer that consists of labels: of `count`, or of fewer with the bottom
of the stack at the end. -/
def OnlyLabels (count : Nat) (buf : Bytes) : Prop :=
  ∃ labels ≤ count, buf.length = 4 * labels ∧
    (∀ index, index + 1 < labels → bottomFlag buf index = 0) ∧
    (labels = count ∨ (0 < labels ∧ bottomFlag buf (labels - 1) = 1))

theorem bottomFlag_drop (buf : Bytes) (index : Nat) :
    bottomFlag (buf.drop 4) index = bottomFlag buf (index + 1) := by
  unfold bottomFlag
  rw [List.drop_drop]
  congr 3
  omega

theorem bottomFlag_lt (buf : Bytes) (index : Nat) :
    bottomFlag buf index < 2 := Nat.mod_lt _ (by decide)

/-- One label in front: it ends the stack and the buffer, or the others are
behind it. -/
theorem onlyLabels_succ {count : Nat} {buf : Bytes} (enough : 4 ≤ buf.length) :
    OnlyLabels (count + 1) buf ↔
      if bottomFlag buf 0 = 1 then buf.length = 4
      else OnlyLabels count (buf.drop 4) := by
  have flag := bottomFlag_lt buf 0
  unfold OnlyLabels
  constructor
  · rintro ⟨labels, within, whole, inner, ends⟩
    split
    · rename_i bottom
      have single : labels = 1 := by
        by_contra several
        have continues := inner 0 (by omega)
        omega
      omega
    · rename_i continues
      have several : labels = 1 → count = 0 := by
        intro single
        rcases ends with full | ⟨_positive, bottom⟩
        · omega
        · rw [single] at bottom
          exact absurd bottom continues
      refine ⟨labels - 1, by omega, ?_, ?_, ?_⟩
      · rw [List.length_drop]
        omega
      · intro index before
        rw [bottomFlag_drop]
        exact inner (index + 1) (by omega)
      · rcases ends with full | ⟨_positive, bottom⟩
        · exact Or.inl (by omega)
        · by_cases single : labels = 1
          · exact Or.inl (by have := several single; omega)
          · refine Or.inr ⟨by omega, ?_⟩
            rw [bottomFlag_drop, show labels - 1 - 1 + 1 = labels - 1 by omega]
            exact bottom
  · intro split_first
    split at split_first
    · rename_i bottom
      exact ⟨1, by omega, by omega, fun index before => by omega,
        Or.inr ⟨by omega, bottom⟩⟩
    · rename_i continues
      obtain ⟨labels, within, whole, inner, ends⟩ := split_first
      rw [List.length_drop] at whole
      refine ⟨labels + 1, by omega, by omega, ?_, ?_⟩
      · intro index before
        cases index with
        | zero => omega
        | succ index =>
            rw [← bottomFlag_drop]
            exact inner index (by omega)
      · rcases ends with full | ⟨positive, bottom⟩
        · exact Or.inl (by omega)
        · refine Or.inr ⟨by omega, ?_⟩
          rw [bottomFlag_drop] at bottom
          rw [show labels + 1 - 1 = labels - 1 + 1 by omega]
          exact bottom

/-- Reading labels leaves nothing exactly on the buffers of labels. -/
theorem readLabels_all {count : Nat} {buf : Bytes} :
    (∃ labels, readStack MPLSlabel.parse (fun label => label.s = 1) count buf =
      .ok (labels, [])) ↔ OnlyLabels count buf := by
  induction count generalizing buf with
  | zero =>
      unfold OnlyLabels
      constructor
      · rintro ⟨labels, read⟩
        rw [readStack, Except.ok.injEq, Prod.mk.injEq] at read
        rw [read.2]
        exact ⟨0, by omega, rfl, fun index before => by omega, Or.inl rfl⟩
      · rintro ⟨labels, within, whole, _inner, _ends⟩
        have none : labels = 0 := by omega
        rw [none] at whole
        rw [List.eq_nil_of_length_eq_zero whole]
        exact ⟨[], rfl⟩
  | succ count ih =>
      by_cases enough : 4 ≤ buf.length
      · have parsed : MPLSlabel.parse buf = .ok (labelAt buf) := by
          rw [MPLSlabel.parse_eq, if_neg (by omega)]
        rw [onlyLabels_succ enough, readStack, parsed, ok_bind]
        by_cases bottom : bottomFlag buf 0 = 1
        · have last : (labelAt buf).s = 1 := bottom
          rw [if_pos (by simpa using last), if_pos bottom]
          constructor
          · rintro ⟨labels, read⟩
            rw [Except.ok.injEq, Prod.mk.injEq] at read
            have behind := List.drop_eq_nil_iff.mp read.2
            omega
          · intro whole
            exact ⟨[labelAt buf], by rw [List.drop_eq_nil_of_le (by omega)]⟩
        · have notLast : ¬(labelAt buf).s = 1 := bottom
          rw [if_neg (by simpa using notLast), if_neg bottom, ← ih]
          constructor
          · rintro ⟨labels, read⟩
            obtain ⟨⟨others, behind⟩, readOthers, done⟩ := bind_eq_ok.mp read
            rw [Except.ok.injEq, Prod.mk.injEq] at done
            rw [done.2] at readOthers
            exact ⟨others, readOthers⟩
          · rintro ⟨others, readOthers⟩
            exact ⟨labelAt buf :: others, by rw [readOthers]; rfl⟩
      · constructor
        · rintro ⟨labels, read⟩
          rw [readStack, MPLSlabel.parse_eq, if_pos (by omega)] at read
          cases read
        · rintro ⟨labels, within, whole, _inner, ends⟩
          have none : labels = 0 := by omega
          omega

end DpktNg.Link
