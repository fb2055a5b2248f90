/-
SMB messages: the header, and the loop of dpkt/smb.py over the commands of a
chain.
-/

import DpktNg.Library.Recursion
import DpktNg.Smb.Commands

namespace DpktNg.Smb

open Library

structure SMBHeader where
  proto : Bytes
  cmd : Nat
  status : Nat
  flags : Nat
  flags2 : Nat
  pidhi : Nat
  security : Bytes
  rsvd : Nat
  tid : Nat
  pidlo : Nat
  uid : Nat
  mid : Nat
deriving DecidableEq, Repr

def SMBHeader.format : StructFormat SMBHeader where
  items :=
    [.str 4, .int 1, .int 4, .int 1, .int 2, .int 2, .str 8, .int 2, .int 2,
      .int 2, .int 2, .int 2]
  values header :=
    (header.proto, header.cmd, header.status, header.flags, header.flags2,
      header.pidhi, header.security, header.rsvd, header.tid, header.pidlo,
      header.uid, header.mid, ())
  ofValues := fun (proto, cmd, status, flags, flags2, pidhi, security, rsvd,
      tid, pidlo, uid, mid, _) =>
    { proto, cmd, status, flags, flags2, pidhi, security, rsvd, tid, pidlo,
      uid, mid }
  ofValues_values _ := rfl

structure SMB where
  header : SMBHeader
  commands : List Command
deriving DecidableEq, Repr

/-- The variables of the loop. -/
structure ChainState where
  offset : Nat
  nextCmd : Nat
  commands : List Command

/-- The errors at which the loop is left. -/
def Stops (problem : PyError) : Prop :=
  problem.IsUnpackError ∨ problem = .structError ∨ problem = .indexError

instance : DecidablePred Stops := fun problem => by
  unfold Stops
  infer_instance

/-- One round of the loop.  The offset of the next command is added to where
this one is. -/
def chainRound (buf : Bytes) (state : ChainState) :
    Except PyError (List Command) ⊕ ChainState :=
  match cmdsw.lookup state.nextCmd with
  | none => .inl (.ok state.commands)
  | some cls =>
      match cls.parse (buf.drop state.offset) with
      | .error problem =>
          if Stops problem then .inl (.ok state.commands)
          else .inl (.error problem)
      | .ok cmd =>
          let commands := state.commands ++ [cmd]
          if cmd.andx.command = 0xff ∨ cmd.andx.offset = 0 then
            .inl (.ok commands)
          else
            .inr
              { offset := state.offset + cmd.andx.offset
                nextCmd := cmd.andx.command
                commands }

def chainStart (header : SMBHeader) : ChainState where
  offset := SMBHeader.format.size
  nextCmd := header.cmd
  commands := []

/-- `SMB.unpack` with at most so many rounds of the loop. -/
def SMB.unpack (fuel : Nat) (buf : Bytes) : Option (Except PyError SMB) :=
  match SMBHeader.format.unpackHdr .little buf with
  | .error problem => some (.error problem)
  | .ok (header, _) =>
      (loop (chainRound buf) fuel (chainStart header)).map fun unpacked => do
        .ok { header, commands := ← unpacked }

def SMB.parse (fuel : Nat) (buf : Bytes) : Option (Except PyError SMB) :=
  (SMB.unpack fuel buf).map fun unpacked =>
    packetInit "SMB" (some SMBHeader.format.size) (fun _ => unpacked) buf

def SMB.Returns (buf : Bytes) (result : Except PyError SMB) : Prop :=
  ∃ fuel, SMB.parse fuel buf = some result

theorem CommandParts.unpack_length {buf : Bytes} {parts : CommandParts}
    (unpacked : unpack buf = .ok parts) :
    1 + parts.params.length + 2 + parts.rawData.length ≤ buf.length := by
  unfold unpack at unpacked
  obtain ⟨wordCount, _first, rest⟩ := bind_eq_ok.mp unpacked
  obtain ⟨byteCount, counted, same⟩ := bind_eq_ok.mp rest
  unfold ByteOrder.unpackInt at counted
  split at counted
  · rename_i whole
    rw [Except.ok.injEq] at same
    rw [← same]
    unfold cut at whole ⊢
    rw [List.length_take, List.length_drop] at whole
    simp only [List.length_take, List.length_drop]
    omega
  · cases counted

theorem CommandClass.parse_eq_ok {cls : CommandClass} {buf : Bytes}
    {cmd : Command} :
    cls.parse buf = .ok cmd ↔
      ∃ parts, CommandParts.unpack buf = .ok parts ∧
        cmd =
          { cls
            parts
            andx := if cls.IsAndX then AndX.read parts.params else AndX.initial
            body := cls.readBody parts } := by
  unfold parse
  rw [packetInit_eq_ok]
  unfold unpack
  rw [bind_eq_ok]
  constructor
  · rintro ⟨parts, unpacked, same⟩
    rw [Except.ok.injEq] at same
    exact ⟨parts, unpacked, same.symm⟩
  · rintro ⟨parts, unpacked, rfl⟩
    exact ⟨parts, unpacked, rfl⟩

theorem CommandClass.parse_length {cls : CommandClass} {buf : Bytes}
    {cmd : Command} (parsed : cls.parse buf = .ok cmd) :
    1 + cmd.parts.params.length + 2 + cmd.parts.rawData.length ≤
      buf.length := by
  obtain ⟨parts, unpacked, rfl⟩ := parse_eq_ok.mp parsed
  exact CommandParts.unpack_length unpacked

theorem chainRound_next {buf : Bytes} {state next : ChainState}
    (goes : chainRound buf state = .inr next) :
    ∃ cls cmd, cmdsw.lookup state.nextCmd = some cls ∧
      cls.parse (buf.drop state.offset) = .ok cmd ∧ cmd.andx.offset ≠ 0 ∧
      next =
        { offset := state.offset + cmd.andx.offset
          nextCmd := cmd.andx.command
          commands := state.commands ++ [cmd] } := by
  unfold chainRound at goes
  split at goes
  · cases goes
  · rename_i cls found
    split at goes
    · split at goes <;> cases goes
    · rename_i cmd parsed
      dsimp only at goes
      split at goes
      · cases goes
      · rename_i more
        rw [not_or] at more
        rw [Sum.inr.injEq] at goes
        exact ⟨cls, cmd, found, parsed, more.2, goes.symm⟩

theorem chainRound_done {buf : Bytes} {state : ChainState}
    {commands : List Command}
    (leaves : chainRound buf state = .inl (.ok commands)) :
    commands = state.commands ∨
      ∃ cls cmd, cmdsw.lookup state.nextCmd = some cls ∧
        cls.parse (buf.drop state.offset) = .ok cmd ∧
        commands = state.commands ++ [cmd] := by
  unfold chainRound at leaves
  split at leaves
  · rw [Sum.inl.injEq, Except.ok.injEq] at leaves
    exact .inl leaves.symm
  · rename_i cls found
    split at leaves
    · split at leaves
      · rw [Sum.inl.injEq, Except.ok.injEq] at leaves
        exact .inl leaves.symm
      · cases leaves
    · rename_i cmd parsed
      dsimp only at leaves
      split at leaves
      · rw [Sum.inl.injEq, Except.ok.injEq] at leaves
        exact .inr ⟨cls, cmd, found, parsed, leaves.symm⟩
      · cases leaves

/-- The bytes that are left get less in every round. -/
theorem chainRound_less {buf : Bytes} {state next : ChainState}
    (goes : chainRound buf state = .inr next) :
    buf.length - next.offset < buf.length - state.offset := by
  obtain ⟨cls, cmd, _found, parsed, positive, rfl⟩ := chainRound_next goes
  have inside := CommandClass.parse_length parsed
  rw [List.length_drop] at inside
  dsimp only
  omega

theorem chain_isPrefix {buf : Bytes} {state : ChainState}
    {commands : List Command}
    (returned : LoopReturns (chainRound buf) state (.ok commands)) :
    state.commands <+: commands := by
  refine @LoopReturns.invariant _ _ _ state _
    (fun other => state.commands <+: other.commands)
    (fun result => ∀ commands, result = .ok commands →
      state.commands <+: commands) ?_ ?_ returned (List.prefix_refl _)
    commands rfl
  · intro other result kept leaves commands same
    rw [same] at leaves
    rcases chainRound_done leaves with here | ⟨cls, cmd, _found, _parsed, here⟩
    · rw [here]
      exact kept
    · rw [here]
      exact kept.trans (List.prefix_append _ _)
  · intro other next kept goes
    obtain ⟨cls, cmd, _found, _parsed, _positive, rfl⟩ := chainRound_next goes
    exact kept.trans (List.prefix_append _ _)

theorem SMB.returns_iff {buf : Bytes} {header : SMBHeader} {behind : Bytes}
    (unpacked : SMBHeader.format.unpackHdr .little buf = .ok (header, behind))
    {smb : SMB} :
    SMB.Returns buf (.ok smb) ↔
      smb.header = header ∧
        LoopReturns (chainRound buf) (chainStart header) (.ok smb.commands) := by
  have parses (fuel : Nat) : SMB.parse fuel buf = some (.ok smb) ↔
      smb.header = header ∧ loop (chainRound buf) fuel (chainStart header) =
        some (.ok smb.commands) := by
    unfold SMB.parse SMB.unpack
    rw [unpacked]
    dsimp only
    rw [Option.map_map, Option.map_eq_some_iff]
    constructor
    · rintro ⟨result, left, same⟩
      rw [Function.comp_apply, packetInit_eq_ok] at same
      obtain ⟨commands, found, made⟩ := bind_eq_ok.mp same
      rw [Except.ok.injEq] at made
      rw [left, found, ← made]
      exact ⟨rfl, rfl⟩
    · rintro ⟨same, left⟩
      refine ⟨_, left, ?_⟩
      rw [Function.comp_apply, packetInit_eq_ok, ok_bind, ← same]
  unfold SMB.Returns LoopReturns
  constructor
  · rintro ⟨fuel, parsed⟩
    exact ⟨((parses fuel).mp parsed).1, fuel, ((parses fuel).mp parsed).2⟩
  · rintro ⟨same, fuel, left⟩
    exact ⟨fuel, (parses fuel).mpr ⟨same, left⟩⟩

theorem SMB.returns (buf : Bytes) : ∃ result, SMB.Returns buf result := by
  have unpacks : ∃ fuel, (SMB.unpack fuel buf).isSome := by
    unfold SMB.unpack
    cases SMBHeader.format.unpackHdr .little buf with
    | error problem => exact ⟨0, rfl⟩
    | ok read =>
        obtain ⟨commands, left⟩ := @loop_of_decreasing _ _ (chainRound buf)
          (fun state => buf.length - state.offset) chainRound_less
          (chainStart read.1)
        refine ⟨buf.length - (chainStart read.1).offset + 1, ?_⟩
        dsimp only
        rw [left]
        rfl
  obtain ⟨fuel, unpacked⟩ := unpacks
  obtain ⟨result, unpacked⟩ := Option.isSome_iff_exists.mp unpacked
  refine ⟨packetInit "SMB" (some SMBHeader.format.size) (fun _ => result) buf,
    fuel, ?_⟩
  unfold SMB.parse
  rw [unpacked, Option.map_some]

end DpktNg.Smb
