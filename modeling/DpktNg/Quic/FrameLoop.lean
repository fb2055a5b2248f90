/-
The loop of `parse_frames` with its offset: every round goes on by at least a
byte or leaves the loop, and nothing is raised.
-/

import DpktNg.Library.Recursion
import DpktNg.Quic.FrameSequence

namespace DpktNg.Quic

open Library

structure FrameState where
  frames : List Frame
  off : Nat

/-- The loop leaves with its frames where the error is caught. -/
def leaveFrames (problem : PyError) (frames : List Frame) :
    Except PyError (List Frame) :=
  if caughtByFrames problem then .ok frames else .error problem

/-- One round of the loop of `parse_frames`; it ends when nothing of the buffer
is left at the offset. -/
def frameRound (buf : Bytes) (state : FrameState) :
    Except PyError (List Frame) ⊕ FrameState :=
  match buf.drop state.off with
  | [] => .inl (.ok state.frames)
  | byte :: rest =>
      if byte.toNat = framePadding then
        .inr { state with off := state.off + 1 }
      else
        match getFrameParser byte.toNat (byte :: rest) with
        | .error problem => .inl (leaveFrames problem state.frames)
        | .ok f =>
            let frames := state.frames ++ [f]
            match frameByteSize f with
            | .error problem => .inl (leaveFrames problem frames)
            | .ok size => .inr { frames, off := state.off + size }

def frameStart : FrameState := { frames := [], off := 0 }

theorem frameRound_next {buf : Bytes} {state next : FrameState}
    (goes : frameRound buf state = .inr next) :
    ∃ byte rest, buf.drop state.off = byte :: rest ∧
      ((byte.toNat = framePadding ∧
          next = { state with off := state.off + 1 }) ∨
        ∃ f size, byte.toNat ≠ framePadding ∧
          getFrameParser byte.toNat (byte :: rest) = .ok f ∧
          frameByteSize f = .ok size ∧
          next =
            { frames := state.frames ++ [f], off := state.off + size }) := by
  unfold frameRound at goes
  split at goes
  · cases goes
  · rename_i byte rest left
    refine ⟨byte, rest, left, ?_⟩
    split at goes
    · rename_i padding
      rw [Sum.inr.injEq] at goes
      exact Or.inl ⟨padding, goes.symm⟩
    · rename_i frame
      split at goes
      · cases goes
      · rename_i f parsed
        dsimp only at goes
        split at goes
        · cases goes
        · rename_i size sized
          rw [Sum.inr.injEq] at goes
          exact Or.inr ⟨f, size, frame, parsed, sized, goes.symm⟩

theorem frameRound_advances {buf : Bytes} {state next : FrameState}
    (goes : frameRound buf state = .inr next) :
    state.off < buf.length ∧ state.off < next.off := by
  obtain ⟨byte, rest, left, step⟩ := frameRound_next goes
  constructor
  · have some_left := congrArg List.length left
    rw [List.length_drop, List.length_cons] at some_left
    omega
  · rcases step with ⟨_padding, same⟩ | ⟨f, size, _frame, _parsed, sized, same⟩
    · rw [same]
      exact Nat.lt_succ_self _
    · rw [same]
      exact Nat.lt_add_of_pos_right (frameByteSize_pos sized)

/-- The frames so far, and those of the rest of the buffer, are all of them. -/
def FramesPending (buf : Bytes) (all : List Frame) (state : FrameState) :
    Prop :=
  ∃ behind, parseFrames (buf.drop state.off) = .ok behind ∧
    state.frames ++ behind = all

theorem FramesPending.next {buf : Bytes} {all : List Frame}
    {state next : FrameState} (pending : FramesPending buf all state)
    (goes : frameRound buf state = .inr next) :
    FramesPending buf all next := by
  obtain ⟨behind, parsed, joined⟩ := pending
  obtain ⟨byte, rest, left, step⟩ := frameRound_next goes
  rw [left] at parsed
  rcases step with ⟨padding, same⟩ | ⟨f, size, frame, parsedFrame, sized, same⟩
  · have further : buf.drop (state.off + 1) = rest := by
      rw [← List.drop_drop, left]
      rfl
    rw [parseFrames, if_pos padding] at parsed
    rw [same]
    exact ⟨behind, (congrArg parseFrames further).trans parsed, joined⟩
  · have further : buf.drop (state.off + size) = (byte :: rest).drop size := by
      rw [← List.drop_drop, left]
    rw [parseFrames_round frame parsedFrame sized] at parsed
    obtain ⟨frames, parsedRest, cons⟩ := bind_eq_ok.mp parsed
    rw [Except.ok.injEq] at cons
    rw [same]
    refine ⟨frames, (congrArg parseFrames further).trans parsedRest, ?_⟩
    rw [List.append_assoc, List.singleton_append, cons, joined]

theorem leaveFrames_ok {problem : PyError} (caught : FrameError problem)
    (frames : List Frame) : leaveFrames problem frames = .ok frames :=
  if_pos caught

theorem FramesPending.leave {buf : Bytes} {all : List Frame}
    {state : FrameState} {result : Except PyError (List Frame)}
    (pending : FramesPending buf all state)
    (leaves : frameRound buf state = .inl result) : result = .ok all := by
  obtain ⟨behind, parsed, joined⟩ := pending
  unfold frameRound at leaves
  split at leaves
  · rename_i nothing
    rw [nothing, parseFrames, Except.ok.injEq] at parsed
    rw [Sum.inl.injEq] at leaves
    rw [← leaves, ← joined, ← parsed, List.append_nil]
  · rename_i byte rest left
    rw [left] at parsed
    split at leaves
    · cases leaves
    · rename_i frame
      rw [parseFrames, if_neg frame] at parsed
      split at leaves
      · rename_i problem raised
        have caught : caughtByFrames problem = true :=
          getFrameParser_raisesOnly _ _ problem raised
        rw [raised] at parsed
        dsimp only at parsed
        rw [if_pos caught, Except.ok.injEq] at parsed
        rw [Sum.inl.injEq, leaveFrames_ok caught] at leaves
        rw [← leaves, ← joined, ← parsed, List.append_nil]
      · rename_i f parsedFrame
        dsimp only at leaves
        split at leaves
        · rename_i problem raised
          have caught : caughtByFrames problem = true :=
            frameByteSize_raisesOnly f problem raised
          rw [parsedFrame] at parsed
          dsimp only at parsed
          split at parsed
          · rename_i other raisedToo
            rw [raised, Except.error.injEq] at raisedToo
            rw [← raisedToo, if_pos caught, Except.ok.injEq] at parsed
            rw [Sum.inl.injEq, leaveFrames_ok caught] at leaves
            rw [← leaves, ← joined, ← parsed]
          · rename_i size sized
            rw [raised] at sized
            cases sized
        · cases leaves

/-- The loop is left after at most one round for each byte and one more, with
the frames that `parseFrames` yields and without an error; every round that
does not leave it goes on by at least a byte. -/
theorem parse_frames_progress (buf : Bytes) :
    (∃ frames,
      loop (frameRound buf) (buf.length + 1) frameStart = some (.ok frames) ∧
        parseFrames buf = .ok frames) ∧
      ∀ state next, frameRound buf state = .inr next →
        state.off + 1 ≤ next.off := by
  constructor
  · obtain ⟨frames, parsed⟩ := parseFrames_succeeds buf
    obtain ⟨result, left⟩ := @loop_of_decreasing _ _ (frameRound buf)
      (fun state => buf.length - state.off)
      (fun goes => by
        have advances := frameRound_advances goes
        omega) frameStart
    have same : result = .ok frames :=
      @LoopReturns.invariant _ _ (frameRound buf) frameStart result
        (FramesPending buf frames) (· = .ok frames)
        FramesPending.leave FramesPending.next ⟨_, left⟩
        ⟨frames, parsed, List.nil_append frames⟩
    rw [same] at left
    exact ⟨frames, left, parsed⟩
  · intro state next goes
    exact (frameRound_advances goes).2

theorem varintSize_le {v size : Nat} (small : v < 2 ^ 62)
    (sized : varintSize v = .ok size) : size ≤ 8 := by
  rw [varintSize_eq small, Except.ok.injEq] at sized
  rw [← sized]
  unfold narrowSize
  cases Width.narrowest v <;> decide

/-- The length that a CRYPTO frame claims is within what `len` may return. -/
theorem cryptoSize_lt {buf : Bytes} {type offset length size : Nat}
    {data : Bytes} {tlsRecords : List Tls.TLSRecord}
    (parsed : Frame.unpackCrypto buf =
      .ok (.crypto type offset length data tlsRecords))
    (sized : frameByteSize (.crypto type offset length data tlsRecords) =
      .ok size) : size < 2 ^ 63 := by
  obtain ⟨_type, _present, parsed⟩ := bind_eq_ok.mp parsed
  obtain ⟨⟨_offset, _n⟩, readOffset, parsed⟩ := bind_eq_ok.mp parsed
  obtain ⟨⟨_length, _m⟩, readLength, parsed⟩ := bind_eq_ok.mp parsed
  obtain ⟨_records, _extracted, same⟩ := bind_eq_ok.mp parsed
  cases same
  have offsetSmall := decodeVarint_lt readOffset
  have lengthSmall := decodeVarint_lt readLength
  unfold frameByteSize at sized
  split at sized
  · cases sized
    decide
  · obtain ⟨first, sizedOffset, sized⟩ := bind_eq_ok.mp sized
    obtain ⟨second, sizedLength, sized⟩ := bind_eq_ok.mp sized
    have firstSmall := varintSize_le offsetSmall sizedOffset
    have secondSmall := varintSize_le lengthSmall sizedLength
    cases sized
    omega

end DpktNg.Quic
