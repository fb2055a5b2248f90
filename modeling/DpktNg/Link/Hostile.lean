/-
Which frames make parsing raise anything but an error of the library, in terms
of their bytes.  Two places of the code do so by themselves: the guess behind a
label stack, and the fragment check of IPv6.  Every class that calls another
one passes their errors on.
-/

import DpktNg.Link.Nesting

namespace DpktNg.Link

open Library Inet

def frameType (frame : Bytes) : Nat := beNat (cut frame 12 14)

/-- An ISL header with a frame inside. -/
def IsIslFrame (buf : Bytes) : Prop :=
  26 ≤ buf.length ∧ frameType buf ≤ 1500 ∧ isIslAddress (cut buf 0 6) = true

instance : DecidablePred IsIslFrame := fun buf =>
  inferInstanceAs (Decidable (26 ≤ buf.length ∧ frameType buf ≤ 1500 ∧
    isIslAddress (cut buf 0 6) = true))

/-- The frame inside all ISL headers. -/
def skipIsl (buf : Bytes) : Bytes :=
  if _isl : IsIslFrame buf then skipIsl (buf.drop 26) else buf
termination_by buf.length
decreasing_by
  have enough := _isl.1
  rw [List.length_drop]
  omega

/-- A frame with a type field. -/
def HasType (frame : Bytes) : Prop :=
  14 ≤ frame.length ∧ frameType frame > 1500

def IsStackType (type : Nat) : Prop :=
  type ∈ ethTypesQinQ ∨ type ∈ ethTypesMpls

instance : DecidablePred IsStackType := fun type =>
  inferInstanceAs (Decidable (type ∈ ethTypesQinQ ∨ type ∈ ethTypesMpls))

/-- The type and the data with which a pass over a frame starts.  There is a
second one where the first left the type of a tag or a label stack. -/
inductive Pass (frame : Bytes) : Nat → Bytes → Prop where
  | first : Pass frame (frameType frame) (frame.drop 14)
  | second {stack : Stack} {next : Nat} {data : Bytes}
      (stripped : stripStack (some (frameType frame)) (frame.drop 14) =
        .ok (stack, some next, data))
      (isStack : IsStackType next) (left : data ≠ []) : Pass frame next data

/-- A length field, no address of ISL and no raw 802.3 body. -/
structure IsLlcFrame (frame : Bytes) : Prop where
  whole : 14 ≤ frame.length
  isLength : frameType frame ≤ 1500
  notIsl : isIslAddress (cut frame 0 6) = false
  notIpx : (frame.drop 14).take 2 ≠ [0xff, 0xff]
  known : frameType frame ≠ 0

def llcBody (frame : Bytes) : Bytes :=
  (frame.drop 14).take (frameType frame)

/-- A pass over the frame finds labels and no byte behind them. -/
def LabelsEnd (frame : Bytes) : Prop :=
  HasType frame ∧
    ∃ type ∈ ethTypesMpls, ∃ data, Pass frame type data ∧ OnlyLabels 24 data

inductive FrameHands (frame : Bytes) : Layer → Bytes → Prop where
  | typed {data inner : Bytes} {type : Nat} {stack : Stack}
      {next : Option Nat} {layer : Layer} (hasType : HasType frame)
      (pass : Pass frame type data)
      (stripped : stripStack (some type) data = .ok (stack, next, inner))
      (known : typeLayer (ethType next (frameType frame)) = some layer) :
      FrameHands frame layer inner
  | snap {layer : Layer} (isLlc : IsLlcFrame frame)
      (whole : 8 ≤ (llcBody frame).length)
      (isSnap : (llcBody frame).take 2 = [0xaa, 0xaa])
      (known : typeLayer (beNat (cut (llcBody frame) 6 8)) = some layer) :
      FrameHands frame layer ((llcBody frame).drop 8)
  | sapIp (isLlc : IsLlcFrame frame) (whole : 3 ≤ (llcBody frame).length)
      (isIp : (llcBody frame).take 1 = [0x06]) :
      FrameHands frame .ip ((llcBody frame).drop 3)

/-- The buffers on which a class itself raises the wrong error. -/
inductive Breaks : Layer → Bytes → Prop where
  /-- the guess behind the labels has no byte to look at -/
  | labels {buf : Bytes} (ends : LabelsEnd (skipIsl buf)) :
      Breaks .ethernet buf
  /-- the last extension header has no fragment offset -/
  | fragOff {buf : Bytes} (missing : FragOffMissing buf) : Breaks .ip6 buf

/-- The buffers that a class hands to another one. -/
inductive Hands : Layer → Bytes → Layer → Bytes → Prop where
  | frame {buf inner : Bytes} {layer : Layer}
      (hands : FrameHands (skipIsl buf) layer inner) :
      Hands .ethernet buf layer inner
  | ip {buf : Bytes} {layer : Layer} (whole : 20 ≤ buf.length)
      (header : 20 ≤ ipHeaderLength buf) (first : (ipHdr buf).offset = 0)
      (known : protoLayer (ipHdr buf).p = some layer) :
      Hands .ip buf layer (ipPayload buf)
  | ip6 {buf : Bytes} {walk : Walk} {layer : Layer} (whole : 40 ≤ buf.length)
      (walked : walkExtHdrs (some (ip6Nxt buf)) (ip6Payload buf) = .ok walk)
      (first : laterFragment (ip6Nxt buf) walk = .ok false)
      (known : walk.final.bind protoLayer = some layer) :
      Hands .ip6 buf layer walk.payload

/-- Somewhere in the buffer, as its classes nest, there is a buffer on which
parsing breaks. -/
inductive Hostile : Layer → Bytes → Prop where
  | here {layer : Layer} {buf : Bytes} (breaks : Breaks layer buf) :
      Hostile layer buf
  | inside {layer inner : Layer} {buf piece : Bytes}
      (hands : Hands layer buf inner piece) (hostile : Hostile inner piece) :
      Hostile layer buf

theorem guessType_escapes {Allowed : PyError → Prop}
    (refused : ¬Allowed .indexError) {type : Nat} {buf : Bytes} :
    Escapes Allowed (guessType type buf) ↔ buf = [] := by
  cases buf with
  | nil =>
      constructor
      · intro _escapes
        rfl
      · intro _empty
        exact escapes_error.mpr refused
  | cons byte rest =>
      constructor
      · intro escapes
        unfold guessType at escapes
        dsimp only at escapes
        split at escapes
        · exact absurd escapes (not_escapes_ok _)
        · split at escapes
          · exact absurd escapes (not_escapes_ok _)
          · split at escapes
            · exact absurd escapes (not_escapes_ok _)
            · exact absurd escapes (not_escapes_ok _)
      · intro impossible
        cases impossible

section Stacks

variable {Allowed : PyError → Prop}
  (library : ∀ problem, problem.IsUnpackError → Allowed problem)

include library

/-- Taking a stack off raises an error of the library, or `IndexError` when
the labels are all there is. -/
theorem stripStack_escapes (refused : ¬Allowed .indexError)
    {nextType : Option Nat} {buf : Bytes} :
    Escapes Allowed (stripStack nextType buf) ↔
      ∃ type ∈ ethTypesMpls, nextType = some type ∧ OnlyLabels 24 buf := by
  have disjoint : ∀ type ∈ ethTypesMpls, type ∉ ethTypesQinQ := by decide
  unfold stripStack
  split
  · constructor
    · intro impossible
      exact absurd impossible (not_escapes_ok _)
    · rintro ⟨type, _isMpls, impossible, _only⟩
      cases impossible
  · rename_i type
    split
    · rename_i isTag
      have fine : RaisesOnly PyError.IsUnpackError
          (readStack VLANtag8021Q.parse
            (fun tag => tag.type ≠ ethType8021Q) 2 buf) :=
        readStack_raisesOnly VLANtag8021Q.parse_eq 2 buf
      constructor
      · intro escapes
        refine absurd escapes (not_escapes_iff.mpr ?_)
        exact (fine.mono library).bind fun _ _ => raisesOnly_ok _
      · rintro ⟨other, isMpls, same, _only⟩
        cases same
        exact absurd isTag (disjoint _ isMpls)
    · split
      · rename_i isMpls
        have fine : RaisesOnly PyError.IsUnpackError
            (readStack MPLSlabel.parse (fun label => label.s = 1) 24 buf) :=
          readStack_raisesOnly MPLSlabel.parse_eq 24 buf
        rw [← readLabels_all, escapes_bind]
        constructor
        · rintro (escapes | ⟨⟨labels, rest⟩, read, escapes⟩)
          · exact absurd escapes (not_escapes_iff.mpr (fine.mono library))
          · rcases escapes_bind.mp escapes with broken | ⟨_, _, impossible⟩
            · rw [(guessType_escapes refused).mp broken] at read
              exact ⟨type, isMpls, rfl, labels, read⟩
            · exact absurd impossible (not_escapes_ok _)
        · rintro ⟨_, _, _, labels, read⟩
          refine Or.inr ⟨_, read, escapes_bind.mpr (Or.inl ?_)⟩
          exact (guessType_escapes refused).mpr rfl
      · rename_i notMpls
        constructor
        · intro impossible
          exact absurd impossible (not_escapes_ok _)
        · rintro ⟨other, isMpls, same, _only⟩
          cases same
          exact absurd isMpls notMpls

variable {Other : Type} {others : Others Other}
  {sub : Layer → Bytes → Except PyError (Carrier Other)}

/-- All registered classes but the modelled ones raise errors of the library
only. -/
structure Others.RaisesUnpackErrors (others : Others Other) : Prop where
  typesw : ∀ type parse, others.typesw type = some parse →
    ∀ buf, RaisesOnly PyError.IsUnpackError (parse buf)
  protosw : ∀ p parse, others.protosw p = some parse →
    ∀ buf, RaisesOnly PyError.IsUnpackError (parse buf)
  ipx : ∀ buf, RaisesOnly PyError.IsUnpackError (others.ipx buf)
  stp : ∀ buf, RaisesOnly PyError.IsUnpackError (others.stp buf)
  isis : ∀ buf, RaisesOnly PyError.IsUnpackError (others.isis buf)

omit library in
theorem asPacket_escapes {layer : Layer} {buf : Bytes} :
    Escapes Allowed (asPacket sub layer buf) ↔
      Escapes Allowed (sub layer buf) := by
  unfold asPacket
  rw [escapes_bind]
  constructor
  · rintro (escapes | ⟨carrier, _returned, impossible⟩)
    · exact escapes
    · exact absurd impossible (not_escapes_ok _)
  · exact Or.inl

theorem asOther_raisesOnly {parse : Bytes → Except PyError Other} {buf : Bytes}
    (raises : RaisesOnly PyError.IsUnpackError (parse buf)) :
    RaisesOnly Allowed (asOther parse buf) :=
  (raises.mono library).bind fun _ _ => raisesOnly_ok _

/-- Of the classes for types, only the modelled ones raise wrong errors. -/
theorem typeDecode_escapes (trusted : others.RaisesUnpackErrors) {type : Nat}
    {buf : Bytes} :
    Escapes Allowed ((typeUpper others sub).decode (some type) buf) ↔
      ∃ layer, typeLayer type = some layer ∧
        Escapes Allowed (sub layer buf) := by
  rw [Upper.decode_escapes library]
  change (∃ decoder, typesw others sub type = some decoder ∧ _) ↔ _
  unfold typesw
  cases typeLayer type with
  | some layer =>
      constructor
      · rintro ⟨decoder, same, escapes⟩
        cases same
        exact ⟨layer, rfl, asPacket_escapes.mp escapes⟩
      · rintro ⟨other, same, escapes⟩
        cases same
        exact ⟨_, rfl, asPacket_escapes.mpr escapes⟩
  | none =>
      constructor
      · rintro ⟨decoder, registered, escapes⟩
        refine absurd escapes (not_escapes_iff.mpr ?_)
        dsimp only at registered
        split at registered
        · cases registered
        · split at registered
          · cases registered
            exact asOther_raisesOnly library (trusted.ipx buf)
          · obtain ⟨parse, found, same⟩ := Option.map_eq_some_iff.mp registered
            rw [← same]
            exact asOther_raisesOnly library
              (trusted.typesw type parse found buf)
      · rintro ⟨layer, impossible, _escapes⟩
        cases impossible

theorem protoDecode_escapes (trusted : others.RaisesUnpackErrors)
    {p : Option Nat} {buf : Bytes} :
    Escapes Allowed ((protoUpper others sub).decode p buf) ↔
      ∃ layer, p.bind protoLayer = some layer ∧
        Escapes Allowed (sub layer buf) := by
  rw [Upper.decode_escapes library]
  cases p with
  | none =>
      constructor
      · rintro ⟨decoder, impossible, _escapes⟩
        cases impossible
      · rintro ⟨layer, impossible, _escapes⟩
        cases impossible
  | some p =>
      change (∃ decoder, protosw others sub p = some decoder ∧ _) ↔
        ∃ layer, protoLayer p = some layer ∧ _
      unfold protosw
      cases protoLayer p with
      | some layer =>
          constructor
          · rintro ⟨decoder, same, escapes⟩
            cases same
            exact ⟨layer, rfl, asPacket_escapes.mp escapes⟩
          · rintro ⟨other, same, escapes⟩
            cases same
            exact ⟨_, rfl, asPacket_escapes.mpr escapes⟩
      | none =>
          constructor
          · rintro ⟨decoder, registered, escapes⟩
            refine absurd escapes (not_escapes_iff.mpr ?_)
            dsimp only at registered
            split at registered
            · cases registered
              exact ((TCP.parse_raisesOnly buf).mono library).bind
                fun _ _ => raisesOnly_ok _
            · split at registered
              · cases registered
                exact ((UDP.parse_raisesOnly buf).mono library).bind
                  fun _ _ => raisesOnly_ok _
              · obtain ⟨parse, found, same⟩ :=
                  Option.map_eq_some_iff.mp registered
                rw [← same]
                exact asOther_raisesOnly library
                  (trusted.protosw p parse found buf)
          · rintro ⟨layer, impossible, _escapes⟩
            cases impossible

end Stacks

end DpktNg.Link
