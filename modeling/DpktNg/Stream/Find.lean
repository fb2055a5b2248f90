/-
`StreamReassembler.find`: a connection from any part of a packet's addressing.

With all four arguments `find` normalises them to a key.  With fewer it
compares each one with the entry's key in the key's own order, smaller endpoint
first, so a packet that runs the other way need not be found.
-/

import DpktNg.Stream.ConnectionTable

namespace DpktNg.Stream

open Library

/-- The arguments of `find`; `none` is one that is not given. -/
structure Query where
  src : Option PyStr := none
  sport : Option Nat := none
  dst : Option PyStr := none
  dport : Option Nat := none
deriving DecidableEq

/-- `arg is None or value == arg` -/
def argMatches {α : Type} [DecidableEq α] (arg : Option α) (value : α) : Bool :=
  match arg with
  | none => true
  | some wanted => value == wanted

/-- The condition of the wildcard loop, on the positions of a key. -/
def Query.matchesKey (query : Query) (connId : ConnId) : Bool :=
  argMatches query.src connId.1 && argMatches query.sport connId.2.1 &&
    argMatches query.dst connId.2.2.1 && argMatches query.dport connId.2.2.2

def StreamReassembler.find (reasm : StreamReassembler) (query : Query) :
    Option Connection :=
  match query.src, query.sport, query.dst, query.dport with
  | some src, some sport, some dst, some dport =>
      reasm.connections.get? (normalisedId (src, sport) (dst, dport))
  | _, _, _, _ =>
      (reasm.connections.entries.find? fun entry =>
        query.matchesKey entry.1).map Prod.snd

/-- Which of the four arguments are given. -/
structure Given where
  src : Bool
  sport : Bool
  dst : Bool
  dport : Bool
deriving DecidableEq

def Given.all (given : Given) : Bool :=
  given.src && given.sport && given.dst && given.dport

/-- The given arguments with the values of the packet. -/
def TcpPacket.query (pkt : TcpPacket) (given : Given) : Query where
  src := if given.src then some (inetNtoa pkt.src) else none
  sport := if given.sport then some pkt.sport else none
  dst := if given.dst then some (inetNtoa pkt.dst) else none
  dport := if given.dport then some pkt.dport else none

/-- The given arguments fit the endpoints of the connection, in the packet's
direction or in the reverse one. -/
def Query.AgreesWith (query : Query) (conn : Connection) : Prop :=
  query.matchesKey (joinEndpoints conn.source conn.destination) = true ∨
    query.matchesKey (joinEndpoints conn.destination conn.source) = true

def Located (reasm : StreamReassembler) (query : Query) : Prop :=
  ∃ conn, reasm.find query = some conn ∧ query.AgreesWith conn

/-- Some tracked connection agrees with the arguments in the order of its own
key. -/
def MatchedInKeyOrder (reasm : StreamReassembler) (query : Query) : Prop :=
  ∃ entry ∈ reasm.connections.entries, query.matchesKey entry.1 = true

namespace StreamReassembler

/-- Every key is the one of its connection, whatever the size of the table. -/
def Keyed (reasm : StreamReassembler) : Prop :=
  ∀ entry ∈ reasm.connections.entries, entry.1 = entry.2.connId

theorem Keyed.store {reasm : StreamReassembler} (keyed : Keyed reasm)
    {connId : ConnId} {conn : Connection} (own : conn.connId = connId) :
    Keyed (reasm.store connId conn) := by
  intro entry member
  rcases (Dict.mem_set _ _ _ _).mp member with new | ⟨old, _⟩
  · rw [new]
    exact own.symm
  · exact keyed entry old

theorem Keyed.evictOne {reasm : StreamReassembler} (keyed : Keyed reasm) :
    Keyed reasm.evictOne :=
  fun entry member => keyed entry (evictOne_subset reasm member)

theorem Keyed.track {reasm : StreamReassembler} (keyed : Keyed reasm)
    (connId : ConnId) :
    Keyed (reasm.track connId).1 ∧ (reasm.track connId).2.connId = connId := by
  cases found : reasm.connections.get? connId with
  | some conn =>
      rw [track_of_present found]
      exact ⟨keyed, (keyed _ (Dict.get?_eq_some.mp found)).symm⟩
  | none =>
      unfold StreamReassembler.track
      rw [found]
      refine ⟨Keyed.store ?_ rfl, rfl⟩
      split
      · exact keyed.evictOne
      · exact keyed

theorem Keyed.feed {reasm : StreamReassembler} (keyed : Keyed reasm)
    (pkt : TcpPacket) : Keyed (reasm.feed pkt).1 := by
  obtain ⟨tracked, own⟩ := keyed.track pkt.connId
  exact tracked.store ((connId_handle _ _ _ _ pkt).trans own)

theorem run_keyed {reasm : StreamReassembler} (start : Keyed reasm)
    (packets : List TcpPacket) : Keyed (machine.run reasm packets) :=
  machine.invariant (fun _pkt => True) Keyed
    (fun _state pkt _allowed keyed => keyed.feed pkt)
    reasm start packets (fun _pkt _member => trivial)

end StreamReassembler

theorem argMatches_given {α : Type} [DecidableEq α] (given : Bool) (value : α) :
    argMatches (if given then some value else none) value = true := by
  cases given with
  | false => rfl
  | true => exact beq_self_eq_true value

theorem query_matches_own (pkt : TcpPacket) (given : Given) :
    (pkt.query given).matchesKey
      (joinEndpoints pkt.source pkt.destination) = true := by
  unfold Query.matchesKey TcpPacket.query
  simp only [Bool.and_eq_true]
  exact ⟨⟨⟨argMatches_given _ _, argMatches_given _ _⟩,
    argMatches_given _ _⟩, argMatches_given _ _⟩

theorem query_agreesWith {conn : Connection} {pkt : TcpPacket}
    (carries : conn.Carries pkt) (given : Given) :
    (pkt.query given).AgreesWith conn := by
  have own := query_matches_own pkt given
  rcases carries with ⟨fromSource, toDestination⟩ | ⟨fromEnd, toSource⟩
  · rw [fromSource, toDestination] at own
    exact Or.inl own
  · rw [fromEnd, toSource] at own
    exact Or.inr own

/-- With all four arguments `find` looks the packet's own key up. -/
theorem find_all (reasm : StreamReassembler) (pkt : TcpPacket) {given : Given}
    (all : given.all = true) :
    reasm.find (pkt.query given) = reasm.connections.get? pkt.connId := by
  unfold Given.all at all
  simp only [Bool.and_eq_true] at all
  obtain ⟨⟨⟨src, sport⟩, dst⟩, dport⟩ := all
  unfold StreamReassembler.find TcpPacket.query
  rw [src, sport, dst, dport]
  rfl

/-- With fewer it returns the first entry that matches in the key's order. -/
theorem find_wildcard (reasm : StreamReassembler) (pkt : TcpPacket)
    {given : Given} (some_missing : given.all = false) :
    reasm.find (pkt.query given) =
      (reasm.connections.entries.find? fun entry =>
        (pkt.query given).matchesKey entry.1).map Prod.snd := by
  obtain ⟨src, sport, dst, dport⟩ := given
  unfold StreamReassembler.find TcpPacket.query
  cases src
  · rfl
  · cases sport
    · rfl
    · cases dst
      · rfl
      · cases dport
        · rfl
        · cases some_missing

theorem located_of_all {reasm : StreamReassembler}
    (keyed : reasm.Keyed) {pkt : TcpPacket}
    (present : (reasm.connections.get? pkt.connId).isSome) {given : Given}
    (all : given.all = true) : Located reasm (pkt.query given) := by
  obtain ⟨conn, found⟩ := Option.isSome_iff_exists.mp present
  have own := (keyed _ (Dict.get?_eq_some.mp found)).symm
  exact ⟨conn, (find_all reasm pkt all).trans found,
    query_agreesWith (carries_of_connId own) given⟩

theorem located_wildcard_iff {reasm : StreamReassembler}
    (keyed : reasm.Keyed) (pkt : TcpPacket) {given : Given}
    (some_missing : given.all = false) :
    Located reasm (pkt.query given) ↔
      MatchedInKeyOrder reasm (pkt.query given) := by
  unfold Located MatchedInKeyOrder
  rw [find_wildcard reasm pkt some_missing]
  constructor
  · intro located
    obtain ⟨conn, found, _agrees⟩ := located
    obtain ⟨entry, first, _same⟩ := Option.map_eq_some_iff.mp found
    have fits := List.find?_some first
    exact ⟨entry, List.mem_of_find?_eq_some first, fits⟩
  · intro matched
    obtain ⟨entry, member, fits⟩ := matched
    have isSome : (reasm.connections.entries.find? fun entry =>
        (pkt.query given).matchesKey entry.1).isSome :=
      List.find?_isSome.mpr ⟨entry, member, fits⟩
    obtain ⟨first, found⟩ := Option.isSome_iff_exists.mp isSome
    have firstFits := List.find?_some found
    have own := keyed _ (List.mem_of_find?_eq_some found)
    refine ⟨first.2, by rw [found]; rfl, Or.inl ?_⟩
    rw [own] at firstFits
    exact firstFits

/-- A packet from the smaller endpoint to the larger one is found by any part
of its addressing. -/
theorem matched_of_ordered {reasm : StreamReassembler} {pkt : TcpPacket}
    (present : (reasm.connections.get? pkt.connId).isSome)
    (ordered : endpointLe pkt.source pkt.destination = true) (given : Given) :
    MatchedInKeyOrder reasm (pkt.query given) := by
  obtain ⟨conn, found⟩ := Option.isSome_iff_exists.mp present
  refine ⟨_, Dict.get?_eq_some.mp found, ?_⟩
  change (pkt.query given).matchesKey (normalisedId _ _) = true
  unfold normalisedId
  rw [if_pos ordered]
  exact query_matches_own pkt given

/-- After every run a tracked packet is located from part of its addressing if
and only if all of it is given or some key matches in its own order; and a packet
from the smaller endpoint to the larger one has such a key. -/
theorem find_located_iff (maxConnections maxBufferPerDir : Nat)
    (outputMode : OutputMode) (fillGaps : Bool) (packets : List TcpPacket)
    (pkt : TcpPacket)
    (present : ((StreamReassembler.machine.run
      { maxConnections, maxBufferPerDir, outputMode, fillGaps }
      packets).connections.get? pkt.connId).isSome)
    (given : Given) :
    (Located (StreamReassembler.machine.run
        { maxConnections, maxBufferPerDir, outputMode, fillGaps } packets)
        (pkt.query given) ↔
      given.all = true ∨
        MatchedInKeyOrder (StreamReassembler.machine.run
          { maxConnections, maxBufferPerDir, outputMode, fillGaps } packets)
          (pkt.query given)) ∧
      (endpointLe pkt.source pkt.destination = true →
        Located (StreamReassembler.machine.run
          { maxConnections, maxBufferPerDir, outputMode, fillGaps } packets)
          (pkt.query given)) := by
  have keyed : (StreamReassembler.machine.run
      { maxConnections, maxBufferPerDir, outputMode, fillGaps }
      packets).Keyed :=
    StreamReassembler.run_keyed (fun _entry member => by cases member) packets
  generalize StreamReassembler.machine.run _ packets = reasm at present keyed ⊢
  have located : Located reasm (pkt.query given) ↔
      given.all = true ∨ MatchedInKeyOrder reasm (pkt.query given) := by
    cases all : given.all with
    | true =>
        exact ⟨fun _ => Or.inl rfl, fun _ => located_of_all keyed present all⟩
    | false =>
        rw [located_wildcard_iff keyed pkt all]
        exact ⟨Or.inr, fun either => either.resolve_left Bool.false_ne_true⟩
  exact ⟨located, fun ordered =>
    located.mpr (Or.inr (matched_of_ordered present ordered given))⟩

def reversePacket : TcpPacket :=
  { src := ⟨10, 0, 0, 2⟩, dst := ⟨10, 0, 0, 1⟩, sport := 445, dport := 12345
    seq := 100, ack := 0, flags := 0x02, data := [] }

/-- All four arguments locate it. -/
theorem find_located_iff_all :
    (Located (StreamReassembler.machine.run {} [reversePacket])
        (reversePacket.query ⟨true, true, true, true⟩) ↔
      (Given.mk true true true true).all = true ∨
        MatchedInKeyOrder (StreamReassembler.machine.run {} [reversePacket])
          (reversePacket.query ⟨true, true, true, true⟩)) ∧
      (endpointLe reversePacket.source reversePacket.destination = true →
        Located (StreamReassembler.machine.run {} [reversePacket])
          (reversePacket.query ⟨true, true, true, true⟩)) :=
  find_located_iff 10000 (16 * 1024 * 1024) .separate false [reversePacket]
    reversePacket (by decide +kernel) ⟨true, true, true, true⟩

/-- Its source address alone does not. -/
theorem find_misses_reverse :
    ¬∀ (maxConnections maxBufferPerDir : Nat) (outputMode : OutputMode)
      (fillGaps : Bool) (packets : List TcpPacket), ∀ pkt ∈ packets,
      ((StreamReassembler.machine.run
        { maxConnections, maxBufferPerDir, outputMode, fillGaps }
        packets).connections.get? pkt.connId).isSome →
      ∀ given, Located (StreamReassembler.machine.run
        { maxConnections, maxBufferPerDir, outputMode, fillGaps } packets)
        (pkt.query given) := by
  intro located
  obtain ⟨conn, found, _agrees⟩ := located 10000 (16 * 1024 * 1024) .separate
    false [reversePacket] reversePacket List.mem_cons_self
    (by decide +kernel) ⟨true, false, false, false⟩
  have nothing : (StreamReassembler.machine.run {} [reversePacket]).find
      (reversePacket.query ⟨true, false, false, false⟩) = none := by
    decide +kernel
  rw [nothing] at found
  cases found

end DpktNg.Stream
