/-
The options of a TCP header.  `parse_opts` of dpkt/tcp.py takes one option after
the other from the front of its buffer, and ends with `None` where the length
byte is missing.
-/

import DpktNg.Library.Recursion
import DpktNg.Python.Struct

namespace DpktNg.Inet

open Library

def tcpOptNop : Nat := 1

/-- The tuples `(o, d)`, and `None` for a bad option. -/
abbrev TcpOpts := List (Option (Nat × Bytes))

structure OptState where
  opts : TcpOpts
  buf : Bytes

/-- `except (IndexError, ValueError)` -/
def caughtByOptions : PyError → Bool
  | .indexError => true
  | .other className _ => className == "ValueError"
  | _ => false

def optRound (state : OptState) : Except PyError TcpOpts ⊕ OptState :=
  match state.buf with
  | [] => .inl (.ok state.opts)
  | first :: rest =>
      let o := first.toNat
      if o > tcpOptNop then
        match byteAt (first :: rest) 1 with
        | .error problem =>
            if caughtByOptions problem then .inl (.ok (state.opts ++ [none]))
            else .inl (.error problem)
        | .ok length =>
            -- at least one byte of type and one of length
            let l := max 2 length
            let d := cut (first :: rest) 2 l
            .inr {
              opts := state.opts ++ [some (o, d)]
              buf := (first :: rest).drop l }
      else
        .inr { opts := state.opts ++ [some (o, [])], buf := rest }

def ParseOpts (buf : Bytes) (result : Except PyError TcpOpts) : Prop :=
  LoopReturns optRound { opts := [], buf } result

section Rounds

variable {state next : OptState} {opts : TcpOpts} {first : UInt8}
  {buf rest : Bytes} {result : Except PyError TcpOpts}

theorem optRound_empty :
    optRound { opts, buf := [] } = .inl (.ok opts) := rfl

theorem optRound_plain (plain : first.toNat ≤ tcpOptNop) :
    optRound { opts, buf := first :: rest } =
      .inr { opts := opts ++ [some (first.toNat, [])], buf := rest } :=
  if_neg (Nat.not_lt.mpr plain)

theorem optRound_bad (long : tcpOptNop < first.toNat) :
    optRound { opts, buf := [first] } = .inl (.ok (opts ++ [none])) :=
  if_pos long

theorem optRound_long (long : tcpOptNop < first.toNat) (length : UInt8) :
    optRound { opts, buf := first :: length :: rest } =
      .inr {
        opts := opts ++ [some (first.toNat,
          cut (first :: length :: rest) 2 (max 2 length.toNat))]
        buf := (first :: length :: rest).drop (max 2 length.toNat) } :=
  if_pos long

theorem optRound_next (goes : optRound state = .inr next) :
    (∃ option, next.opts = state.opts ++ [some option]) ∧
      next.buf.length < state.buf.length := by
  obtain ⟨opts, buf⟩ := state
  cases buf with
  | nil => cases goes
  | cons first rest =>
      rcases Nat.lt_or_ge tcpOptNop first.toNat with long | plain
      · cases rest with
        | nil =>
            rw [optRound_bad long] at goes
            cases goes
        | cons length rest =>
            rw [optRound_long long, Sum.inr.injEq] at goes
            rw [← goes]
            refine ⟨⟨_, rfl⟩, ?_⟩
            rw [List.length_drop]
            simp only [List.length_cons]
            omega
      · rw [optRound_plain plain, Sum.inr.injEq] at goes
        rw [← goes]
        exact ⟨⟨_, rfl⟩, Nat.lt_succ_self _⟩

/-- A round that leaves has the tuples so far, perhaps with `None` behind
them. -/
theorem optRound_leaves (leaves : optRound state = .inl result) :
    result = .ok state.opts ∨ result = .ok (state.opts ++ [none]) := by
  obtain ⟨opts, buf⟩ := state
  cases buf with
  | nil =>
      rw [optRound_empty, Sum.inl.injEq] at leaves
      exact Or.inl leaves.symm
  | cons first rest =>
      rcases Nat.lt_or_ge tcpOptNop first.toNat with long | plain
      · cases rest with
        | nil =>
            rw [optRound_bad long, Sum.inl.injEq] at leaves
            exact Or.inr leaves.symm
        | cons length rest =>
            rw [optRound_long long] at leaves
            cases leaves
      · rw [optRound_plain plain] at leaves
        cases leaves

end Rounds

/-- No tuple of the list is `None`, except for the last one. -/
def NoneAtEnd (result : Except PyError TcpOpts) : Prop :=
  ∃ opts, result = .ok opts ∧ none ∉ opts.dropLast

theorem ParseOpts.noneAtEnd {buf : Bytes} {result : Except PyError TcpOpts}
    (returned : ParseOpts buf result) : NoneAtEnd result := by
  -- inside the loop there is no `None`
  refine @LoopReturns.invariant _ _ optRound _ _
    (fun state => none ∉ state.opts) NoneAtEnd ?_ ?_ returned List.not_mem_nil
  · intro state result clean leaves
    rcases optRound_leaves leaves with returned | returned
    · exact ⟨_, returned, fun bad => clean (List.dropLast_subset _ bad)⟩
    · refine ⟨_, returned, ?_⟩
      rw [List.dropLast_concat]
      exact clean
  · intro state next clean goes bad
    obtain ⟨option, appended⟩ := (optRound_next goes).1
    rw [appended, List.mem_append, List.mem_singleton] at bad
    rcases bad with before | here
    · exact clean before
    · cases here

theorem parseOpts_returns (buf : Bytes) :
    ∃ opts, ParseOpts buf (.ok opts) ∧ none ∉ opts.dropLast := by
  obtain ⟨result, returned⟩ := loop_of_decreasing
    (fun goes => (optRound_next goes).2) { opts := [], buf }
  have parsed : ParseOpts buf result := ⟨_, returned⟩
  obtain ⟨opts, rfl, noneLast⟩ := parsed.noneAtEnd
  exact ⟨opts, parsed, noneLast⟩

/-- An option as RFC 793 has it: the kinds 0 and 1 are one byte, the others have
a length byte, which counts itself and the kind. -/
structure TcpOption where
  kind : UInt8
  data : Bytes
  plain : kind.toNat ≤ tcpOptNop → data = []
  short : data.length ≤ 253

namespace TcpOption

def encoded (option : TcpOption) : Bytes :=
  if option.kind.toNat ≤ tcpOptNop then [option.kind]
  else option.kind :: UInt8.ofNat (option.data.length + 2) :: option.data

def tuple (option : TcpOption) : Nat × Bytes :=
  (option.kind.toNat, option.data)

theorem optRound_encoded (option : TcpOption) (opts : TcpOpts)
    (behind : Bytes) :
    optRound { opts, buf := option.encoded ++ behind } =
      .inr { opts := opts ++ [some option.tuple], buf := behind } := by
  unfold encoded tuple
  split
  · rename_i plain
    rw [List.singleton_append, optRound_plain plain, option.plain plain]
  · rename_i long
    have short := option.short
    have count : (UInt8.ofNat (option.data.length + 2)).toNat =
        option.data.length + 2 := count_toNat (by omega)
    have clamp : max 2 (option.data.length + 2) = option.data.length + 2 := by
      omega
    have data (first second : UInt8) :
        cut (first :: second :: (option.data ++ behind)) 2
          (option.data.length + 2) = option.data :=
      List.take_left
    have rest (first second : UInt8) :
        (first :: second :: (option.data ++ behind)).drop
          (option.data.length + 2) = behind :=
      List.drop_left
    rw [List.cons_append, List.cons_append,
      optRound_long (Nat.not_le.mp long), count, clamp, data, rest]

end TcpOption

theorem parseOpts_encoded (options : List TcpOption) (opts : TcpOpts) :
    LoopReturns optRound { opts, buf := options.flatMap TcpOption.encoded }
      (.ok (opts ++ options.map fun option => some option.tuple)) := by
  induction options generalizing opts with
  | nil =>
      rw [List.map_nil, List.append_nil]
      exact (loopReturns_done optRound_empty).mpr rfl
  | cons option rest ih =>
      rw [List.flatMap_cons, List.map_cons, List.append_cons]
      exact (loopReturns_next (option.optRound_encoded opts _)).mpr (ih _)

/-- `parse_opts` returns for every buffer, with `None` at most in the last
place, and gives encoded options back. -/
theorem parseOpts_reads :
    (∀ buf, ∃ opts, ParseOpts buf (.ok opts) ∧ none ∉ opts.dropLast) ∧
      ∀ options : List TcpOption,
        ParseOpts (options.flatMap TcpOption.encoded)
          (.ok (options.map fun option =>
            some (option.kind.toNat, option.data))) :=
  ⟨parseOpts_returns, fun options => parseOpts_encoded options []⟩

end DpktNg.Inet
