/-
The connection table of the reassembler over whole runs: its size, its keys,
which entry and which direction a packet is routed to, and which connection
`_evict_one` removes.

In the default mode, `'separate'`, every call of `feed` reads both directions of
the connection it touches, so whoever looks at the table afterwards finds no
contiguous bytes in it.
-/

import DpktNg.Stream.Reassembler

namespace DpktNg.Stream

open Library

/-! ### The order of endpoints -/

theorem endpointLe_total (a b : Endpoint) :
    endpointLe a b = true ∨ endpointLe b a = true := by
  simp only [endpointLe, Bool.or_eq_true, Bool.and_eq_true, decide_eq_true_eq,
    beq_iff_eq]
  rcases lt_trichotomy a.1 b.1 with less | same | greater
  · exact Or.inl (Or.inl less)
  · rcases Nat.le_total a.2 b.2 with below | above
    · exact Or.inl (Or.inr ⟨same, below⟩)
    · exact Or.inr (Or.inr ⟨same.symm, above⟩)
  · exact Or.inr (Or.inl greater)

theorem endpointLe_antisymm {a b : Endpoint} (first : endpointLe a b = true)
    (second : endpointLe b a = true) : a = b := by
  simp only [endpointLe, Bool.or_eq_true, Bool.and_eq_true, decide_eq_true_eq,
    beq_iff_eq] at first second
  rcases first with less | ⟨same, below⟩
  · rcases second with greater | ⟨same', _⟩
    · exact absurd greater (lt_asymm less)
    · rw [same'] at less
      exact absurd less (lt_irrefl _)
  · rcases second with greater | ⟨_, above⟩
    · rw [same] at greater
      exact absurd greater (lt_irrefl _)
    · exact Prod.ext same (Nat.le_antisymm below above)

/-- The key does not depend on which endpoint is the source. -/
theorem normalisedId_comm (a b : Endpoint) :
    normalisedId a b = normalisedId b a := by
  unfold normalisedId
  by_cases first : endpointLe a b = true
  · by_cases second : endpointLe b a = true
    · rw [endpointLe_antisymm first second]
    · rw [if_pos first, if_neg second]
  · have second := (endpointLe_total a b).resolve_left first
    rw [if_neg first, if_pos second]

theorem normalisedId_cases (a b : Endpoint) :
    (normalisedId a b = joinEndpoints a b ∧ endpointLe a b = true) ∨
      (normalisedId a b = joinEndpoints b a ∧ endpointLe b a = true) := by
  unfold normalisedId
  by_cases first : endpointLe a b = true
  · exact Or.inl ⟨if_pos first, first⟩
  · exact Or.inr ⟨if_neg first, (endpointLe_total a b).resolve_left first⟩

namespace Connection

def source (conn : Connection) : Endpoint := (conn.srcIp, conn.srcPort)

def destination (conn : Connection) : Endpoint := (conn.dstIp, conn.dstPort)

theorem connId_eq_joinEndpoints (conn : Connection) :
    conn.connId = joinEndpoints conn.source conn.destination := rfl

def Carries (conn : Connection) (pkt : TcpPacket) : Prop :=
  (pkt.source = conn.source ∧ pkt.destination = conn.destination) ∨
    (pkt.source = conn.destination ∧ pkt.destination = conn.source)

end Connection

theorem joinEndpoints_injective {a b c d : Endpoint}
    (same : joinEndpoints a b = joinEndpoints c d) : a = c ∧ b = d := by
  simp only [joinEndpoints, Prod.mk.injEq] at same
  exact ⟨Prod.ext same.1 same.2.1, Prod.ext same.2.2.1 same.2.2.2⟩

theorem carries_of_connId {conn : Connection} {pkt : TcpPacket}
    (keyed : conn.connId = pkt.connId) : conn.Carries pkt := by
  rw [Connection.connId_eq_joinEndpoints, TcpPacket.connId] at keyed
  rcases normalisedId_cases pkt.source pkt.destination with
    ⟨straight, _⟩ | ⟨crossed, _⟩
  · rw [straight] at keyed
    have ends := joinEndpoints_injective keyed
    exact Or.inl ⟨ends.1.symm, ends.2.symm⟩
  · rw [crossed] at keyed
    have ends := joinEndpoints_injective keyed
    exact Or.inr ⟨ends.2.symm, ends.1.symm⟩

def Direction.opposite : Direction → Direction
  | .c2s => .s2c
  | .s2c => .c2s

theorem direction_eq (conn : Connection) (pkt : TcpPacket) :
    conn.direction (inetNtoa pkt.src) pkt.sport =
      if pkt.source = conn.source then .c2s else .s2c := by
  unfold Connection.direction
  have same : (inetNtoa pkt.src = conn.srcIp ∧ pkt.sport = conn.srcPort) ↔
      pkt.source = conn.source := by
    unfold TcpPacket.source Connection.source
    rw [Prod.mk.injEq]
  simp only [same]

/-- Two endpoints that differ as addresses and ports differ as texts and
ports. -/
theorem source_ne_destination {pkt : TcpPacket}
    (differ : (pkt.src, pkt.sport) ≠ (pkt.dst, pkt.dport)) :
    pkt.source ≠ pkt.destination := by
  intro same
  unfold TcpPacket.source TcpPacket.destination at same
  rw [Prod.mk.injEq] at same
  exact differ (Prod.ext (inetNtoa_injective same.1) same.2)

theorem connId_swap (pkt : TcpPacket) : pkt.swap.connId = pkt.connId :=
  normalisedId_comm pkt.destination pkt.source

theorem direction_swap {conn : Connection} {pkt : TcpPacket}
    (carries : conn.Carries pkt)
    (differ : (pkt.src, pkt.sport) ≠ (pkt.dst, pkt.dport)) :
    conn.direction (inetNtoa pkt.swap.src) pkt.swap.sport =
      (conn.direction (inetNtoa pkt.src) pkt.sport).opposite := by
  have apart := source_ne_destination differ
  have swapped : pkt.swap.source = pkt.destination := rfl
  rw [direction_eq, direction_eq, swapped]
  rcases carries with ⟨fromSource, toDestination⟩ | ⟨fromEnd, toSource⟩
  · have notSource : pkt.destination ≠ conn.source := by
      rw [← fromSource]
      exact apart.symm
    rw [if_neg notSource, if_pos fromSource]
    rfl
  · have notSource : pkt.source ≠ conn.source := by
      rw [← toSource]
      exact apart
    rw [if_pos toSource, if_neg notSource]
    rfl

namespace StreamReassembler

theorem victim_mem {reasm : StreamReassembler} {entry : ConnId × Connection}
    (chosen : reasm.victim = some entry) :
    entry ∈ reasm.connections.entries := by
  unfold victim at chosen
  dsimp only at chosen
  split at chosen
  · rename_i other found
    cases chosen
    exact List.mem_of_find?_eq_some found
  · split at chosen
    · rename_i other found
      cases chosen
      exact List.mem_of_find?_eq_some found
    · exact List.argmax_mem chosen

theorem victim_eq_none {reasm : StreamReassembler}
    (nothing : reasm.victim = none) : reasm.connections.entries = [] := by
  unfold victim at nothing
  dsimp only at nothing
  split at nothing
  · cases nothing
  · split at nothing
    · cases nothing
    · exact List.argmax_eq_none.mp nothing

theorem evictOne_subset (reasm : StreamReassembler) :
    reasm.evictOne.connections.entries ⊆ reasm.connections.entries := by
  unfold evictOne
  split
  · intro entry member
    exact ((Dict.mem_erase _ _ _).mp member).1
  · exact List.Subset.refl _

theorem evictOne_size {reasm : StreamReassembler}
    (nonempty : 1 ≤ reasm.connections.size) :
    reasm.evictOne.connections.size < reasm.connections.size := by
  unfold evictOne
  split
  · rename_i entry chosen
    exact Dict.size_erase_lt (victim_mem chosen)
  · rename_i nothing
    unfold Dict.size at nonempty
    rw [victim_eq_none nothing] at nonempty
    cases nonempty

def configuration (reasm : StreamReassembler) :
    Nat × Nat × OutputMode × Bool :=
  (reasm.maxConnections, reasm.maxBufferPerDir, reasm.outputMode,
    reasm.fillGaps)

theorem evictOne_configuration (reasm : StreamReassembler) :
    reasm.evictOne.configuration = reasm.configuration := by
  unfold evictOne
  split <;> rfl

theorem track_configuration (reasm : StreamReassembler) (connId : ConnId) :
    (reasm.track connId).1.configuration = reasm.configuration := by
  unfold track
  cases reasm.connections.get? connId with
  | some conn => rfl
  | none =>
      dsimp only
      split
      · exact reasm.evictOne_configuration
      · rfl

theorem feed_configuration (reasm : StreamReassembler) (pkt : TcpPacket) :
    (reasm.feed pkt).1.configuration = reasm.configuration :=
  reasm.track_configuration pkt.connId

theorem run_configuration (reasm : StreamReassembler)
    (packets : List TcpPacket) :
    (machine.run reasm packets).configuration = reasm.configuration :=
  machine.invariant (fun _pkt => True)
    (fun state => state.configuration = reasm.configuration)
    (fun state pkt _allowed same => (state.feed_configuration pkt).trans same)
    reasm rfl packets (fun _pkt _member => trivial)

theorem track_of_present {reasm : StreamReassembler} {connId : ConnId}
    {conn : Connection} (found : reasm.connections.get? connId = some conn) :
    reasm.track connId = (reasm, conn) := by
  unfold track
  rw [found]

/-! ### What holds of every tracked connection -/

def AllTracked (Good : Connection → Prop) (reasm : StreamReassembler) :
    Prop :=
  ∀ entry ∈ reasm.connections.entries, Good entry.2

section Rule

variable {Good : Connection → Prop}
  (fresh : ∀ srcIp srcPort dstIp dstPort,
    Good { srcIp, srcPort, dstIp, dstPort })

include fresh

theorem AllTracked.track {reasm : StreamReassembler}
    (all : AllTracked Good reasm) (connId : ConnId) :
    AllTracked Good (reasm.track connId).1 ∧
      Good (reasm.track connId).2 := by
  cases found : reasm.connections.get? connId with
  | some conn =>
      rw [track_of_present found]
      exact ⟨all, all _ (Dict.get?_eq_some.mp found)⟩
  | none =>
      unfold StreamReassembler.track
      rw [found]
      refine ⟨?_, fresh _ _ _ _⟩
      intro entry member
      rcases (Dict.mem_set _ _ _ _).mp member with new | ⟨old, _⟩
      · rw [new]
        exact fresh _ _ _ _
      · refine all entry ?_
        split at old
        · exact evictOne_subset reasm old
        · exact old

theorem AllTracked.feed {reasm : StreamReassembler} {pkt : TcpPacket}
    (handled : ∀ conn, Good conn → Good (conn.handle reasm.maxBufferPerDir
      reasm.outputMode reasm.fillGaps pkt).1)
    (all : AllTracked Good reasm) : AllTracked Good (reasm.feed pkt).1 := by
  obtain ⟨others, own⟩ := all.track fresh pkt.connId
  intro entry member
  rcases (Dict.mem_set _ _ _ _).mp member with new | ⟨old, _⟩
  · rw [new]
    exact handled _ own
  · exact others entry old

/-- What new connections satisfy and handling a packet preserves holds of every
tracked connection after every run. -/
theorem run_allTracked (reasm : StreamReassembler)
    (handled : ∀ conn pkt, Good conn → Good (conn.handle
      reasm.maxBufferPerDir reasm.outputMode reasm.fillGaps pkt).1)
    (start : AllTracked Good reasm) (packets : List TcpPacket) :
    AllTracked Good (machine.run reasm packets) := by
  have invariant := machine.invariant (fun _pkt => True)
    (fun state => AllTracked Good state ∧
      state.configuration = reasm.configuration)
    (by
      intro state pkt _allowed holds
      obtain ⟨all, same⟩ := holds
      refine ⟨all.feed fresh ?_, (state.feed_configuration pkt).trans same⟩
      intro conn good
      simp only [configuration, Prod.mk.injEq] at same
      rw [same.2.1, same.2.2.1, same.2.2.2]
      exact handled conn pkt good)
    reasm ⟨start, rfl⟩ packets (fun _pkt _member => trivial)
  exact invariant.1

end Rule

/-! ### The table invariant -/

structure TableInvariant (reasm : StreamReassembler) : Prop where
  bounded : reasm.connections.size ≤ reasm.maxConnections
  keyed : ∀ entry ∈ reasm.connections.entries, entry.1 = entry.2.connId
  normalised : ∀ entry ∈ reasm.connections.entries,
    endpointLe entry.2.source entry.2.destination = true

/-- What `feed` relies on once the table has an entry for the key. -/
structure Tracked (reasm : StreamReassembler) (connId : ConnId)
    (tracked : StreamReassembler) (conn : Connection) : Prop where
  connId_eq : conn.connId = connId
  present : tracked.connections.get? connId = some conn
  entries : ∀ entry ∈ tracked.connections.entries,
    entry = (connId, conn) ∨ entry ∈ reasm.connections.entries
  size : tracked.connections.size ≤ reasm.maxConnections

theorem TableInvariant.track {reasm : StreamReassembler}
    (holds : TableInvariant reasm) (positive : 1 ≤ reasm.maxConnections)
    (connId : ConnId) :
    Tracked reasm connId (reasm.track connId).1 (reasm.track connId).2 := by
  cases found : reasm.connections.get? connId with
  | some conn =>
      have member := Dict.get?_eq_some.mp found
      rw [track_of_present found]
      exact
        { connId_eq := (holds.keyed _ member).symm
          present := found
          entries := fun entry present => Or.inr present
          size := holds.bounded }
  | none =>
      have absent := Dict.get?_eq_none.mp found
      unfold StreamReassembler.track
      rw [found]
      dsimp only
      -- the table with room for one more entry
      have room : ∀ kept : StreamReassembler,
          kept.connections.entries ⊆ reasm.connections.entries →
          kept.connections.size < reasm.maxConnections →
          ∀ conn : Connection, conn.connId = connId →
            Tracked reasm connId (kept.store connId conn) conn := by
        intro kept subset smaller conn keyed
        have keptAbsent : kept.connections.get? connId = none := by
          rw [Dict.get?_eq_none]
          intro present
          exact absent (List.map_subset Prod.fst subset present)
        exact
          { connId_eq := keyed
            present := Dict.get?_set_same _ _ _
            entries := by
              intro entry member
              rcases (Dict.mem_set _ _ _ _).mp member with new | ⟨old, _⟩
              · exact Or.inl new
              · exact Or.inr (subset old)
            size := by
              have grown := Dict.size_set_of_absent conn keptAbsent
              change (kept.connections.set connId conn).size ≤ _
              omega }
      by_cases full : reasm.connections.size ≥ reasm.maxConnections
      · rw [if_pos full]
        have evicted := evictOne_size (Nat.le_trans positive full)
        have bounded := holds.bounded
        exact room _ (evictOne_subset reasm) (by omega) _ rfl
      · rw [if_neg full]
        exact room _ (List.Subset.refl _) (by omega) _ rfl

theorem connId_handle (conn : Connection) (limit : Nat) (mode : OutputMode)
    (fill : Bool) (pkt : TcpPacket) :
    (conn.handle limit mode fill pkt).1.connId = conn.connId := by
  cases mode with
  | separate => exact conn.connId_feed _ _ _ _ _ _
  | merged =>
      rw [← conn.connId_feed (inetNtoa pkt.src) pkt.sport pkt.seq pkt.ack
        pkt.data pkt.flags]
      exact Connection.connId_mergedData _ fill

/-- The connection that `feed` returns is the stored one, and it keeps the
key of the packet. -/
theorem TableInvariant.feed_connection {reasm : StreamReassembler}
    (holds : TableInvariant reasm) (positive : 1 ≤ reasm.maxConnections)
    (pkt : TcpPacket) :
    (reasm.feed pkt).2.connection.connId = pkt.connId ∧
      (reasm.feed pkt).1.connections.get? pkt.connId =
        some (reasm.feed pkt).2.connection := by
  have tracked := holds.track positive pkt.connId
  refine ⟨?_, Dict.get?_set_same _ _ _⟩
  rw [← tracked.connId_eq]
  exact connId_handle _ _ _ _ pkt

theorem feed_maxConnections (reasm : StreamReassembler) (pkt : TcpPacket) :
    (reasm.feed pkt).1.maxConnections = reasm.maxConnections :=
  congrArg Prod.fst (reasm.feed_configuration pkt)

theorem TableInvariant.feed {reasm : StreamReassembler}
    (holds : TableInvariant reasm) (positive : 1 ≤ reasm.maxConnections)
    (pkt : TcpPacket) : TableInvariant (reasm.feed pkt).1 := by
  have tracked := holds.track positive pkt.connId
  have returned := holds.feed_connection positive pkt
  have stored : (reasm.feed pkt).1.connections =
      (reasm.track pkt.connId).1.connections.set pkt.connId
        (reasm.feed pkt).2.connection := rfl
  -- an entry is the one just stored or was there before
  have entries : ∀ entry ∈ (reasm.feed pkt).1.connections.entries,
      entry = (pkt.connId, (reasm.feed pkt).2.connection) ∨
        entry ∈ reasm.connections.entries := by
    intro entry member
    rw [stored, Dict.mem_set] at member
    rcases member with new | ⟨old, different⟩
    · exact Or.inl new
    · rcases tracked.entries entry old with here | before
      · rw [here] at different
        exact absurd rfl different
      · exact Or.inr before
  refine { bounded := ?_, keyed := ?_, normalised := ?_ }
  · rw [stored, Dict.size_set_of_present _ tracked.present,
      feed_maxConnections]
    exact tracked.size
  · intro entry member
    rcases entries entry member with new | before
    · rw [new]
      exact returned.1.symm
    · exact holds.keyed entry before
  · intro entry member
    rcases entries entry member with new | before
    · rw [new]
      have keyed := returned.1
      rw [Connection.connId_eq_joinEndpoints, TcpPacket.connId] at keyed
      rcases normalisedId_cases pkt.source pkt.destination with
        ⟨straight, ordered⟩ | ⟨crossed, ordered⟩
      · rw [straight] at keyed
        have ends := joinEndpoints_injective keyed
        rw [ends.1, ends.2]
        exact ordered
      · rw [crossed] at keyed
        have ends := joinEndpoints_injective keyed
        rw [ends.1, ends.2]
        exact ordered
    · exact holds.normalised entry before

/-! ### Runs -/

theorem run_tableInvariant (reasm : StreamReassembler)
    (positive : 1 ≤ reasm.maxConnections) (start : TableInvariant reasm)
    (packets : List TcpPacket) :
    TableInvariant (machine.run reasm packets) ∧
      1 ≤ (machine.run reasm packets).maxConnections := by
  apply machine.invariant (fun _pkt => True)
    (fun state => TableInvariant state ∧ 1 ≤ state.maxConnections)
    _ reasm ⟨start, positive⟩ packets (fun _pkt _member => trivial)
  intro state pkt _allowed holds
  refine ⟨holds.1.feed holds.2 pkt, ?_⟩
  change 1 ≤ (state.feed pkt).1.maxConnections
  rw [feed_maxConnections]
  exact holds.2

theorem tableInvariant_fresh (maxConnections maxBufferPerDir : Nat)
    (outputMode : OutputMode) (fillGaps : Bool) :
    TableInvariant
      { maxConnections, maxBufferPerDir, outputMode, fillGaps } where
  bounded := Nat.zero_le _
  keyed := fun entry member => by cases member
  normalised := fun entry member => by cases member

/-- The table stays within its bound, every key is its connection's normalised
key, and a packet and its swapped twin share an entry and use opposite
directions. -/
theorem connection_table (maxConnections maxBufferPerDir : Nat)
    (outputMode : OutputMode) (fillGaps : Bool)
    (positive : 1 ≤ maxConnections) (packets : List TcpPacket) :
    let reasm := machine.run
      { maxConnections, maxBufferPerDir, outputMode, fillGaps } packets
    reasm.connections.size ≤ maxConnections ∧
      (∀ entry ∈ reasm.connections.entries, entry.1 = entry.2.connId ∧
        endpointLe entry.2.source entry.2.destination = true) ∧
      ∀ pkt : TcpPacket,
        let next := (reasm.feed pkt).1
        let conn := (reasm.feed pkt).2.connection
        conn.Carries pkt ∧
          next.track pkt.connId = (next, conn) ∧
          next.track pkt.swap.connId = (next, conn) ∧
          ((pkt.src, pkt.sport) ≠ (pkt.dst, pkt.dport) →
            conn.direction (inetNtoa pkt.swap.src) pkt.swap.sport =
              (conn.direction (inetNtoa pkt.src) pkt.sport).opposite) := by
  have reached := run_tableInvariant
    { maxConnections, maxBufferPerDir, outputMode, fillGaps } positive
    (tableInvariant_fresh _ _ _ _) packets
  have sameMax := congrArg Prod.fst (run_configuration
    { maxConnections, maxBufferPerDir, outputMode, fillGaps } packets)
  change (machine.run _ packets).maxConnections = maxConnections at sameMax
  dsimp only
  generalize machine.run _ packets = reasm at reached sameMax ⊢
  refine ⟨?_, ?_, ?_⟩
  · rw [← sameMax]
    exact reached.1.bounded
  · intro entry member
    exact ⟨reached.1.keyed entry member, reached.1.normalised entry member⟩
  · intro pkt
    have returned := reached.1.feed_connection reached.2 pkt
    refine ⟨carries_of_connId returned.1, track_of_present returned.2, ?_,
      direction_swap (carries_of_connId returned.1)⟩
    rw [connId_swap]
    exact track_of_present returned.2

def openingSyn : TcpPacket where
  src := ⟨10, 0, 0, 1⟩
  dst := ⟨10, 0, 0, 2⟩
  sport := 1000
  dport := 80
  seq := 1
  ack := 0
  flags := thSyn
  data := []

/-- A table of one entry after three packets of two connections, and a packet
of the evicted one. -/
theorem connection_table_evicted :
    let reasm := machine.run { maxConnections := 1 }
      [openingSyn, openingSyn.swap, { openingSyn with sport := 1001 }]
    reasm.connections.size ≤ 1 ∧
      (∀ entry ∈ reasm.connections.entries, entry.1 = entry.2.connId ∧
        endpointLe entry.2.source entry.2.destination = true) ∧
      let next := (reasm.feed openingSyn).1
      let conn := (reasm.feed openingSyn).2.connection
      next.track openingSyn.connId = (next, conn) ∧
        next.track openingSyn.swap.connId = (next, conn) ∧
        conn.direction (inetNtoa openingSyn.swap.src) openingSyn.swap.sport =
          (conn.direction (inetNtoa openingSyn.src)
            openingSyn.sport).opposite :=
  let table := connection_table 1 (16 * 1024 * 1024) .separate false
    (by decide)
    [openingSyn, openingSyn.swap, { openingSyn with sport := 1001 }]
  let shared := (table.2.2 openingSyn).2
  ⟨table.1, table.2.1, shared.1, shared.2.1, shared.2.2 (by decide)⟩

end StreamReassembler

/-! ### The default mode -/

/-- No direction holds contiguous bytes. -/
def Connection.IsRead (conn : Connection) : Prop :=
  ∀ direction, (conn.buffer direction).contiguous = []

theorem getData_of_noContiguous {buf : DirectionBuffer}
    (read : buf.contiguous = []) : buf.getData false = (buf, []) := by
  cases buf
  simp only at read
  simp [DirectionBuffer.getData, read]

theorem Connection.isRead_fresh (srcIp : PyStr) (srcPort : Nat)
    (dstIp : PyStr) (dstPort : Nat) :
    Connection.IsRead { srcIp, srcPort, dstIp, dstPort } := by
  intro direction
  cases direction with
  | c2s => rfl
  | s2c => rfl

/-- The limit check finds nothing that it could release: the contiguous bytes
have just been read. -/
theorem enforceLimit_after_read (buf : DirectionBuffer) (limit : Nat) :
    (buf.getData false).1.enforceLimit limit false = (buf.getData false).1 := by
  unfold DirectionBuffer.enforceLimit
  split
  · simp [DirectionBuffer.getData]
  · rfl

theorem Connection.handle_buffer_default (conn : Connection) (limit : Nat)
    (pkt : TcpPacket) (direction : Direction) :
    (conn.handle limit .separate false pkt).1.buffer direction =
      (((conn.feed (inetNtoa pkt.src) pkt.sport pkt.seq pkt.ack pkt.data
        pkt.flags).buffer direction).getData false).1 := by
  cases direction with
  | c2s => exact enforceLimit_after_read _ limit
  | s2c => exact enforceLimit_after_read _ limit

theorem Connection.handle_isRead (conn : Connection) (limit : Nat)
    (pkt : TcpPacket) :
    (conn.handle limit .separate false pkt).1.IsRead := by
  intro direction
  rw [conn.handle_buffer_default]
  rfl

namespace StreamReassembler

theorem feed_buffer_default {reasm : StreamReassembler}
    (separate : reasm.outputMode = .separate)
    (noFill : reasm.fillGaps = false) (pkt : TcpPacket)
    (direction : Direction) :
    (reasm.feed pkt).2.connection.buffer direction =
      ((((reasm.track pkt.connId).2.feed (inetNtoa pkt.src) pkt.sport
        pkt.seq pkt.ack pkt.data pkt.flags).buffer direction).getData
          false).1 := by
  unfold StreamReassembler.feed
  rw [separate, noFill]
  exact Connection.handle_buffer_default _ _ pkt direction

/-- After every packet everything contiguous has been read. -/
theorem run_isRead (reasm : StreamReassembler)
    (separate : reasm.outputMode = .separate)
    (noFill : reasm.fillGaps = false)
    (start : AllTracked Connection.IsRead reasm) (packets : List TcpPacket) :
    AllTracked Connection.IsRead (machine.run reasm packets) := by
  apply run_allTracked Connection.isRead_fresh reasm _ start
  intro conn pkt _read
  rw [separate, noFill]
  exact conn.handle_isRead _ pkt

end StreamReassembler

/-! ### Eviction -/

/-- The byte count of the buffer is the one of the bytes it holds. -/
def DirectionBuffer.Accounted (buf : DirectionBuffer) : Prop :=
  buf.totalBuffered = buf.contiguous.length + segmentBytes buf.segments

namespace Connection

def Accounted (conn : Connection) : Prop :=
  conn.c2s.Accounted ∧ conn.s2c.Accounted

/-- The bytes that the connection holds out of order. -/
def outOfOrder (conn : Connection) : Nat :=
  segmentBytes conn.c2s.segments + segmentBytes conn.s2c.segments

theorem Accounted.backlog_eq {conn : Connection} (accounted : conn.Accounted) :
    conn.backlog = conn.outOfOrder := by
  obtain ⟨c2s, s2c⟩ := accounted
  unfold DirectionBuffer.Accounted at c2s s2c
  unfold backlog outOfOrder
  rw [c2s, s2c]
  omega

end Connection

theorem le_of_maxByKey {α : Type} {key : α → Int} {items : List α} {best : α}
    (chosen : maxByKey key items = some best) {item : α}
    (member : item ∈ items) : key item ≤ key best :=
  List.le_of_mem_argmax member chosen

namespace StreamReassembler

/-- What is removed from the table, and why nothing else was. -/
structure Evicts (reasm : StreamReassembler) (removed : ConnId × Connection) :
    Prop where
  /-- One entry goes, and the others stay as they are. -/
  removes : ∃ before after,
    reasm.connections.entries = before ++ removed :: after ∧
      reasm.evictOne.connections.entries = before ++ after
  configuration : reasm.evictOne.configuration = reasm.configuration
  closedFirst : removed.2.isClosed = false →
    ∀ entry ∈ reasm.connections.entries, entry.2.isClosed = false
  drainedFirst : removed.2.isClosed = true → removed.2.isDrained = false →
    ∀ entry ∈ reasm.connections.entries,
      entry.2.isClosed = true → entry.2.isDrained = false
  largest : (∀ entry ∈ reasm.connections.entries, entry.2.isClosed = false) →
    (∀ entry ∈ reasm.connections.entries, entry.2.Accounted) →
    ∀ entry ∈ reasm.connections.entries,
      entry.2.outOfOrder ≤ removed.2.outOfOrder

/-- The three searches: what was found, and what the earlier ones did not
find. -/
theorem victim_cases {reasm : StreamReassembler}
    {removed : ConnId × Connection} (chosen : reasm.victim = some removed) :
    (removed.2.isClosed = true ∧ removed.2.isDrained = true) ∨
      (removed.2.isClosed = true ∧
        ∀ entry ∈ reasm.connections.entries,
          entry.2.isClosed = true → entry.2.isDrained = false) ∨
      ((∀ entry ∈ reasm.connections.entries, entry.2.isClosed = false) ∧
        ∀ entry ∈ reasm.connections.entries,
          entry.2.backlog ≤ removed.2.backlog) := by
  unfold victim at chosen
  dsimp only at chosen
  split at chosen
  · rename_i found first
    cases chosen
    have both := List.find?_some first
    exact Or.inl (Bool.and_eq_true_iff.mp both)
  · rename_i noneDrained
    have undrained : ∀ entry ∈ reasm.connections.entries,
        entry.2.isClosed = true → entry.2.isDrained = false := by
      intro entry member closed
      have refused := List.find?_eq_none.mp noneDrained entry member
      rw [closed, Bool.true_and, Bool.not_eq_true] at refused
      exact refused
    split at chosen
    · rename_i found first
      cases chosen
      have closed := List.find?_some first
      exact Or.inr (Or.inl ⟨closed, undrained⟩)
    · rename_i noneClosed
      refine Or.inr (Or.inr ⟨?_, ?_⟩)
      · intro entry member
        exact Bool.eq_false_iff.mpr
          (List.find?_eq_none.mp noneClosed entry member)
      · exact fun entry member => le_of_maxByKey chosen member

theorem evicts_of_victim {reasm : StreamReassembler}
    {removed : ConnId × Connection} (chosen : reasm.victim = some removed) :
    reasm.Evicts removed where
  removes := by
    have erased : reasm.evictOne.connections =
        reasm.connections.erase removed.1 := by
      unfold evictOne
      rw [chosen]
    rw [erased]
    exact Dict.entries_erase (victim_mem chosen)
  configuration := reasm.evictOne_configuration
  closedFirst := by
    intro isOpen
    rcases victim_cases chosen with
      ⟨closed, _drained⟩ | ⟨closed, _undrained⟩ | ⟨noneClosed, _largest⟩
    · rw [closed] at isOpen
      cases isOpen
    · rw [closed] at isOpen
      cases isOpen
    · exact noneClosed
  drainedFirst := by
    intro closed undrained
    rcases victim_cases chosen with
      ⟨_closed, drained⟩ | ⟨_closed, noneDrained⟩ | ⟨noneClosed, _largest⟩
    · rw [drained] at undrained
      cases undrained
    · exact noneDrained
    · rw [noneClosed removed (victim_mem chosen)] at closed
      cases closed
  largest := by
    intro noneClosed accounted entry member
    rcases victim_cases chosen with
      ⟨closed, _drained⟩ | ⟨closed, _undrained⟩ | ⟨_noneClosed, largest⟩
    · rw [noneClosed removed (victim_mem chosen)] at closed
      cases closed
    · rw [noneClosed removed (victim_mem chosen)] at closed
      cases closed
    · have more := largest entry member
      rw [(accounted entry member).backlog_eq,
        (accounted removed (victim_mem chosen)).backlog_eq] at more
      exact Int.ofNat_le.mp more

/-- A table that is not empty loses one connection: one that is closed and
drained where there is one, else a closed one, else the one with the most bytes
out of order. -/
theorem evictOne_policy {reasm : StreamReassembler}
    (nonempty : reasm.connections.entries ≠ []) :
    ∃ removed, reasm.Evicts removed := by
  cases chosen : reasm.victim with
  | none => exact absurd (victim_eq_none chosen) nonempty
  | some removed => exact ⟨removed, evicts_of_victim chosen⟩

/-- An open connection that waits for a gap, and two that are closed: one with
bytes still to be read, and one that has been read. -/
def threeConnections : StreamReassembler :=
  let client := "10.0.0.1".toList
  let server := "10.0.0.2".toList
  let conn (port : Nat) (c2s s2c : DirectionBuffer) : ConnId × Connection :=
    ((client, port, server, 80),
      { srcIp := client, srcPort := port, dstIp := server, dstPort := 80,
        c2s, s2c })
  let ended : DirectionBuffer :=
    { isn := some 0, nextSeq := 1, finSeq := some 1, synReceived := true,
      finReceived := true }
  { connections :=
      { entries :=
          [conn 1
            { isn := some 0, synReceived := true,
              segments := [⟨5, 1, [97, 98, 99]⟩], totalBuffered := 3 } {},
           conn 2 { ended with contiguous := [100], totalBuffered := 1 } ended,
           conn 3 ended ended]
        distinct := by decide } }

/-- The read one goes first, then the other closed one. -/
theorem evictOne_policy_three :
    (∃ removed, threeConnections.Evicts removed) ∧
      threeConnections.evictOne.connections.entries =
        threeConnections.connections.entries.take 2 ∧
      threeConnections.evictOne.evictOne.connections.entries =
        threeConnections.connections.entries.take 1 :=
  ⟨evictOne_policy (List.cons_ne_nil _ _), by decide, by decide⟩

end StreamReassembler

end DpktNg.Stream
