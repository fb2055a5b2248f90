/-
What the callbacks of the engine receive.  Two endpoints send each other byte
streams in segments that arrive in any order and any number of times, between
the packets of other connections; the callbacks receive what has come of each
stream from its start on, without a gap, in pieces.

The parsers of FTP, SMTP and IMAP are fed such pieces at the end.
-/

import DpktNg.Stream.Demultiplexing
import DpktNg.Stream.Reassembly
import DpktNg.Ftp.ControlParser
import DpktNg.Imap.StreamParser
import DpktNg.Smtp.StreamParser

namespace DpktNg.Stream

open Library

/-! ### Packets that carry a stream -/

namespace TcpPacket

def SentBy (pkt : TcpPacket) (a b : Endpoint) : Prop :=
  pkt.source = a ∧ pkt.destination = b

instance (pkt : TcpPacket) (a b : Endpoint) : Decidable (pkt.SentBy a b) :=
  inferInstanceAs (Decidable (pkt.source = a ∧ pkt.destination = b))

/-- The sequence number of the first payload byte; a SYN takes one number. -/
def firstNumber (pkt : TcpPacket) : Int :=
  if pkt.flags &&& thSyn ≠ 0 then pkt.seq + 1 else pkt.seq

/-- The positions of the payload in a stream whose first byte has the number
behind `isn`. -/
def positions (isn : Int) (pkt : TcpPacket) : Set Nat :=
  {position | pkt.firstNumber ≤ isn + 1 + position ∧
    isn + 1 + position < pkt.firstNumber + pkt.data.length}

/-- The payload is a slice of the stream, under the number of its place. -/
def CarriesSlice (stream : Bytes) (isn : Int) (pkt : TcpPacket) : Prop :=
  ∃ start stop : Nat, pkt.firstNumber = isn + 1 + start ∧
    pkt.data = slice stream start stop

theorem connId_of_sentBy {pkt : TcpPacket} {a b : Endpoint}
    (sent : pkt.SentBy a b) : pkt.connId = normalisedId a b := by
  unfold connId
  rw [sent.1, sent.2]

theorem positions_slice {stream : Bytes} {isn : Int} {pkt : TcpPacket}
    {start stop : Nat} (numbered : pkt.firstNumber = isn + 1 + start)
    (sliced : pkt.data = slice stream start stop) :
    pkt.positions isn = slicePositions stream start stop := by
  ext position
  rw [mem_slicePositions, ← sliced]
  unfold positions
  rw [Set.mem_ofPred_eq, numbered]
  omega

end TcpPacket

/-- What an endpoint sends to another in a capture: a SYN first, which may carry
the start of the stream, and slices of the stream. -/
structure Sends (a b : Endpoint) (stream : Bytes) (isn : Int)
    (packets : List TcpPacket) : Prop where
  sliced : ∀ pkt ∈ packets, pkt.SentBy a b → pkt.CarriesSlice stream isn
  opening : ∃ syn rest,
    packets.filter (fun pkt => pkt.SentBy a b) = syn :: rest ∧
      syn.flags &&& thSyn ≠ 0 ∧ syn.seq = isn ∧
      ∀ pkt ∈ rest, pkt.flags &&& thSyn = 0

def sentPositions (a b : Endpoint) (isn : Int) (packets : List TcpPacket) :
    Set Nat :=
  {position | ∃ pkt ∈ packets, pkt.SentBy a b ∧ position ∈ pkt.positions isn}

/-- What the callbacks are called with while the packets from `a` to `b` are
fed. -/
def deliveredFrom (a b : Endpoint) (packets : List TcpPacket)
    (results : List StreamReassembler.FeedResult) : List Bytes :=
  (packets.zip results).flatMap fun entry =>
    if entry.1.SentBy a b then entry.2.delivered else []

namespace Connection

theorem handled_buffer_own (conn : Connection) (limit : Nat)
    (pkt : TcpPacket) :
    let direction := conn.direction (inetNtoa pkt.src) pkt.sport
    (conn.handled limit .separate false pkt).1.buffer direction =
      (((conn.buffer direction).feed pkt.seq pkt.ack pkt.data
        pkt.flags).getData false).1 := by
  intro direction
  change (conn.handle limit .separate false pkt).1.buffer direction = _
  rw [conn.handle_buffer_default]
  unfold Connection.feed Connection.feedTo
  rw [buffer_setBuffer_same]

variable {conn : Connection} (read : conn.IsRead) (limit : Nat)
  (pkt : TcpPacket)

include read

theorem handled_buffer_other {direction : Direction}
    (different : direction ≠ conn.direction (inetNtoa pkt.src) pkt.sport) :
    (conn.handled limit .separate false pkt).1.buffer direction =
      conn.buffer direction := by
  change (conn.handle limit .separate false pkt).1.buffer direction = _
  rw [conn.handle_buffer_default]
  unfold Connection.feed Connection.feedTo
  rw [buffer_setBuffer_other _ _ different,
    getData_of_noContiguous (read direction)]

theorem handled_delivered :
    let direction := conn.direction (inetNtoa pkt.src) pkt.sport
    (conn.handled limit .separate false pkt).2.delivered.flatten =
      ((conn.buffer direction).feed pkt.seq pkt.ack pkt.data
        pkt.flags).contiguous := by
  intro direction
  have delivered : (conn.handled limit .separate false pkt).2.delivered =
      [((conn.feedTo direction pkt.seq pkt.ack pkt.data
          pkt.flags).buffer .c2s).contiguous,
        ((conn.feedTo direction pkt.seq pkt.ack pkt.data
          pkt.flags).buffer .s2c).contiguous].filter
        fun bytes => bytes ≠ [] := rfl
  rw [delivered, List.flatten_filter_ne_nil]
  unfold Connection.feedTo
  cases direction with
  | c2s =>
      rw [buffer_setBuffer_same, buffer_setBuffer_other _ _ (by decide),
        read .s2c]
      simp
  | s2c =>
      rw [buffer_setBuffer_same, buffer_setBuffer_other _ _ (by decide),
        read .c2s]
      simp

end Connection

/-! ### The direction of a packet -/

section Directions

variable {conn : Connection} {a b : Endpoint} {pkt : TcpPacket}

theorem Connection.direction_endpoint (conn : Connection) (a : Endpoint) :
    conn.direction a.1 a.2 = if a = conn.source then .c2s else .s2c := by
  unfold Connection.direction
  have same : (a.1 = conn.srcIp ∧ a.2 = conn.srcPort) ↔ a = conn.source := by
    rw [Prod.ext_iff]
    rfl
  simp only [same]

theorem source_of_joined (joined : conn.connId = normalisedId a b) :
    conn.source = a ∨ conn.source = b := by
  rw [Connection.connId_eq_joinEndpoints] at joined
  rcases normalisedId_cases a b with ⟨straight, _⟩ | ⟨crossed, _⟩
  · rw [straight] at joined
    exact Or.inl (joinEndpoints_injective joined).1
  · rw [crossed] at joined
    exact Or.inr (joinEndpoints_injective joined).1

theorem sentBy_or (keyed : pkt.connId = normalisedId a b) :
    pkt.SentBy a b ∨ pkt.SentBy b a := by
  unfold TcpPacket.connId at keyed
  rcases normalisedId_cases pkt.source pkt.destination with
    ⟨straight, _⟩ | ⟨crossed, _⟩ <;>
  rcases normalisedId_cases a b with ⟨straight', _⟩ | ⟨crossed', _⟩
  · rw [straight, straight'] at keyed
    exact Or.inl (joinEndpoints_injective keyed)
  · rw [straight, crossed'] at keyed
    exact Or.inr (joinEndpoints_injective keyed)
  · rw [crossed, straight'] at keyed
    exact Or.inr (joinEndpoints_injective keyed).symm
  · rw [crossed, crossed'] at keyed
    exact Or.inl (joinEndpoints_injective keyed).symm

theorem direction_sent (conn : Connection) (sent : pkt.SentBy a b) :
    conn.direction (inetNtoa pkt.src) pkt.sport = conn.direction a.1 a.2 := by
  rw [← sent.1]
  rfl

theorem direction_not_sent (joined : conn.connId = normalisedId a b)
    (keyed : pkt.connId = normalisedId a b) (notSent : ¬pkt.SentBy a b) :
    conn.direction a.1 a.2 ≠
      conn.direction (inetNtoa pkt.src) pkt.sport := by
  have back := (sentBy_or keyed).resolve_left notSent
  have apart : a ≠ b := by
    intro same
    rw [same] at notSent back
    exact notSent back
  rw [direction_sent conn back, conn.direction_endpoint,
    conn.direction_endpoint]
  rcases source_of_joined joined with source | source
  · rw [source, if_pos rfl, if_neg apart.symm]
    decide
  · rw [source, if_neg apart, if_pos rfl]
    decide

end Directions

/-! ### The connection after each packet -/

/-- One connection on its own, in the default mode. -/
def Connection.alone (limit : Nat) :
    Machine Connection TcpPacket StreamReassembler.FeedResult :=
  ⟨fun conn pkt => conn.handled limit .separate false pkt⟩

/-- A connection of the two endpoints, with everything read that could be. -/
structure Joins (a b : Endpoint) (conn : Connection) : Prop where
  joined : conn.connId = normalisedId a b
  read : conn.IsRead

/-- The buffer for what the first endpoint sends. -/
def Connection.bufferFrom (conn : Connection) (a : Endpoint) :
    DirectionBuffer :=
  conn.buffer (conn.direction a.1 a.2)

namespace Joins

variable {a b : Endpoint} {conn : Connection} (joins : Joins a b conn)
  (limit : Nat) {pkt : TcpPacket}

theorem handled_direction (conn : Connection) (limit : Nat) (pkt : TcpPacket)
    (a : Endpoint) :
    (conn.handled limit .separate false pkt).1.direction a.1 a.2 =
      conn.direction a.1 a.2 := by
  have same : (conn.handled limit .separate false pkt).1.connId =
      conn.connId :=
    StreamReassembler.connId_handle conn limit .separate false pkt
  rw [Connection.connId_eq_joinEndpoints,
    Connection.connId_eq_joinEndpoints] at same
  rw [Connection.direction_endpoint, Connection.direction_endpoint,
    (joinEndpoints_injective same).1]

include joins

theorem handled (pkt : TcpPacket) :
    Joins a b (conn.handled limit .separate false pkt).1 where
  joined := by
    rw [← joins.joined]
    exact StreamReassembler.connId_handle conn limit .separate false pkt
  read := conn.handle_isRead limit pkt

theorem bufferFrom_sent (sent : pkt.SentBy a b) :
    (conn.handled limit .separate false pkt).1.bufferFrom a =
        (((conn.bufferFrom a).feed pkt.seq pkt.ack pkt.data
          pkt.flags).getData false).1 ∧
      (conn.handled limit .separate false pkt).2.delivered.flatten =
        ((conn.bufferFrom a).feed pkt.seq pkt.ack pkt.data
          pkt.flags).contiguous := by
  have own := conn.handled_buffer_own limit pkt
  have delivered := Connection.handled_delivered joins.read limit pkt
  dsimp only at own delivered
  rw [direction_sent conn sent] at own delivered
  unfold Connection.bufferFrom
  rw [handled_direction]
  exact ⟨own, delivered⟩

theorem bufferFrom_other (keyed : pkt.connId = normalisedId a b)
    (notSent : ¬pkt.SentBy a b) :
    (conn.handled limit .separate false pkt).1.bufferFrom a =
      conn.bufferFrom a := by
  unfold Connection.bufferFrom
  rw [handled_direction]
  exact Connection.handled_buffer_other joins.read limit pkt
    (direction_not_sent joins.joined keyed notSent)

end Joins

/-! ### The stream from one endpoint -/

/-- What has been received and delivered of the stream that `a` sends. -/
structure Listening (a b : Endpoint) (stream : Bytes) (isn : Int)
    (received : Set Nat) (output : Bytes) (conn : Connection) : Prop
    extends Joins a b conn where
  reassembled : Reassembled stream isn received output (conn.bufferFrom a)

theorem reassembled_feedSyn (stream : Bytes) (isn ack : Int) (stop flags : Nat)
    (syn : flags &&& thSyn ≠ 0) :
    Reassembled stream isn (slicePositions stream 0 stop) []
      (({} : DirectionBuffer).feed isn ack (slice stream 0 stop) flags) := by
  have inSlice := mem_slicePositions stream 0 stop
  have sliced := slice_isPrefix stream 0 stop
  have wellFormed := DirectionBuffer.wellFormed_fresh.feed isn ack
    (slice stream 0 stop) flags fun _ => Or.inl rfl
  have fed : ({} : DirectionBuffer).feed isn ack (slice stream 0 stop) flags =
      { isn := some isn
        nextSeq := 1 + (slice stream 0 stop).length
        synReceived := true
        contiguous := slice stream 0 stop
        totalBuffered := (slice stream 0 stop).length } := by
    unfold DirectionBuffer.feed DirectionBuffer.feedSyn
    rw [if_pos syn]
    split
    · rename_i empty
      rw [empty]
      rfl
    · simp
  rw [fed] at wellFormed ⊢
  exact
    { wellFormed := wellFormed
      isn_eq := rfl
      agrees := fun seg member => by cases member
      content := sliced
      reached := Int.add_comm _ _
      covered := by
        intro position
        rw [inSlice]
        constructor
        · intro inside
          exact Or.inl (by dsimp only; omega)
        · intro present
          rcases present with early | inside
          · dsimp only at early
            omega
          · exact absurd inside (covers_nil _) }

theorem Reassembled.read {stream : Bytes} {isn : Int} {received : Set Nat}
    {output data : Bytes} {buf : DirectionBuffer}
    (reassembled : Reassembled stream isn received output buf)
    (same : data = buf.contiguous) :
    Reassembled stream isn received (output ++ data) (buf.getData false).1 := by
  rw [same]
  exact reassembled.getData

section Flow

variable {a b : Endpoint} {stream : Bytes} {isn : Int} {received : Set Nat}
  {output : Bytes} {conn : Connection} (limit : Nat) {pkt : TcpPacket}

/-- The SYN of an endpoint that has sent nothing before. -/
theorem Joins.opens (joins : Joins a b conn) (unused : conn.bufferFrom a = {})
    (sent : pkt.SentBy a b) (syn : pkt.flags &&& thSyn ≠ 0)
    (first : pkt.seq = isn) (carries : pkt.CarriesSlice stream isn) :
    Listening a b stream isn (pkt.positions isn)
      (conn.handled limit .separate false pkt).2.delivered.flatten
      (conn.handled limit .separate false pkt).1 where
  toJoins := joins.handled limit pkt
  reassembled := by
    obtain ⟨start, stop, numbered, sliced⟩ := carries
    have positions := TcpPacket.positions_slice numbered sliced
    unfold TcpPacket.firstNumber at numbered
    rw [if_pos syn, first] at numbered
    have atStart : start = 0 := by omega
    obtain ⟨buffer, delivered⟩ := joins.bufferFrom_sent limit sent
    have opened := reassembled_feedSyn stream isn pkt.ack stop pkt.flags syn
    rw [unused, first, sliced, atStart] at buffer delivered
    rw [buffer, positions, atStart]
    exact opened.read delivered

theorem Listening.sent (listening : Listening a b stream isn received output conn)
    (sent : pkt.SentBy a b) (noSyn : pkt.flags &&& thSyn = 0)
    (carries : pkt.CarriesSlice stream isn) :
    Listening a b stream isn (received ∪ pkt.positions isn)
      (output ++
        (conn.handled limit .separate false pkt).2.delivered.flatten)
      (conn.handled limit .separate false pkt).1 where
  toJoins := listening.toJoins.handled limit pkt
  reassembled := by
    obtain ⟨start, stop, numbered, sliced⟩ := carries
    have positions := TcpPacket.positions_slice numbered sliced
    unfold TcpPacket.firstNumber at numbered
    rw [if_neg (not_not_intro noSyn)] at numbered
    obtain ⟨buffer, delivered⟩ := listening.toJoins.bufferFrom_sent limit sent
    have fed := listening.reassembled.feed start stop pkt.seq pkt.ack pkt.flags
      noSyn numbered
    rw [sliced] at buffer delivered
    rw [buffer, positions]
    exact fed.read delivered

theorem Listening.other
    (listening : Listening a b stream isn received output conn)
    (keyed : pkt.connId = normalisedId a b) (notSent : ¬pkt.SentBy a b) :
    Listening a b stream isn received output
      (conn.handled limit .separate false pkt).1 where
  toJoins := listening.toJoins.handled limit pkt
  reassembled := by
    rw [listening.toJoins.bufferFrom_other limit keyed notSent]
    exact listening.reassembled

end Flow

/-! ### Runs of one connection -/

theorem sentPositions_cons (a b : Endpoint) (isn : Int) (pkt : TcpPacket)
    (rest : List TcpPacket) :
    sentPositions a b isn (pkt :: rest) =
      (if pkt.SentBy a b then pkt.positions isn else ∅) ∪
        sentPositions a b isn rest := by
  ext position
  unfold sentPositions
  simp only [List.exists_mem_cons_iff, Set.mem_union, Set.mem_ofPred_eq]
  split
  · rename_i sent
    simp only [sent, true_and]
  · rename_i notSent
    simp only [notSent, false_and, Set.mem_empty_iff_false]

theorem deliveredFrom_cons (a b : Endpoint) (pkt : TcpPacket)
    (rest : List TcpPacket) (result : StreamReassembler.FeedResult)
    (results : List StreamReassembler.FeedResult) :
    deliveredFrom a b (pkt :: rest) (result :: results) =
      (if pkt.SentBy a b then result.delivered else []) ++
        deliveredFrom a b rest results := rfl

section Runs

variable {a b : Endpoint} {stream : Bytes} {isn : Int} {limit : Nat}

theorem Listening.run {received : Set Nat} {output : Bytes} {conn : Connection}
    (listening : Listening a b stream isn received output conn)
    {own : List TcpPacket}
    (keyed : ∀ pkt ∈ own, pkt.connId = normalisedId a b)
    (sliced : ∀ pkt ∈ own, pkt.SentBy a b → pkt.CarriesSlice stream isn)
    (noSyns : ∀ pkt ∈ own, pkt.SentBy a b → pkt.flags &&& thSyn = 0) :
    Listening a b stream isn (received ∪ sentPositions a b isn own)
      (output ++ (deliveredFrom a b own
        ((Connection.alone limit).trace conn own)).flatten)
      ((Connection.alone limit).run conn own) := by
  induction own generalizing received output conn with
  | nil =>
      have nothing : sentPositions a b isn [] = ∅ := by
        ext position
        simp [sentPositions]
      rw [nothing, Set.union_empty]
      change Listening a b stream isn received (output ++ []) conn
      rw [List.append_nil]
      exact listening
  | cons pkt rest ih =>
      have here := keyed pkt List.mem_cons_self
      rw [sentPositions_cons, Machine.trace_cons, deliveredFrom_cons,
        Machine.run_cons, List.flatten_append, ← Set.union_assoc,
        ← List.append_assoc]
      refine ih ?_ (fun other member => keyed other (List.mem_cons_of_mem _ member))
        (fun other member => sliced other (List.mem_cons_of_mem _ member))
        (fun other member => noSyns other (List.mem_cons_of_mem _ member))
      by_cases sent : pkt.SentBy a b
      · rw [if_pos sent, if_pos sent]
        exact listening.sent limit sent (noSyns pkt List.mem_cons_self sent)
          (sliced pkt List.mem_cons_self sent)
      · rw [if_neg sent, if_neg sent, Set.union_empty, List.flatten_nil,
          List.append_nil]
        exact listening.other limit here sent

/-- Nothing is delivered before the SYN, and from it on the stream is. -/
theorem Joins.run {conn : Connection} (joins : Joins a b conn)
    (unused : conn.bufferFrom a = {}) {own : List TcpPacket}
    (keyed : ∀ pkt ∈ own, pkt.connId = normalisedId a b)
    (sends : Sends a b stream isn own) :
    Listening a b stream isn (sentPositions a b isn own)
      (deliveredFrom a b own
        ((Connection.alone limit).trace conn own)).flatten
      ((Connection.alone limit).run conn own) := by
  induction own generalizing conn with
  | nil =>
      obtain ⟨syn, rest, impossible, _⟩ := sends.opening
      cases impossible
  | cons pkt rest ih =>
      have here := keyed pkt List.mem_cons_self
      have later : ∀ other ∈ rest, other.connId = normalisedId a b :=
        fun other member => keyed other (List.mem_cons_of_mem _ member)
      have slicedLater : ∀ other ∈ rest, other.SentBy a b →
          other.CarriesSlice stream isn :=
        fun other member => sends.sliced other (List.mem_cons_of_mem _ member)
      obtain ⟨syn, others, split, flagged, numbered, noSyns⟩ := sends.opening
      rw [sentPositions_cons, Machine.trace_cons, deliveredFrom_cons,
        Machine.run_cons, List.flatten_append]
      by_cases sent : pkt.SentBy a b
      · rw [List.filter_cons_of_pos (by simpa using sent)] at split
        obtain ⟨same, sameOthers⟩ := List.cons.inj split
        rw [← same] at flagged numbered
        rw [if_pos sent, if_pos sent]
        apply (joins.opens limit unused sent flagged numbered
          (sends.sliced pkt List.mem_cons_self sent)).run later slicedLater
        intro other member sentLater
        apply noSyns other
        rw [← sameOthers]
        exact List.mem_filter.mpr ⟨member, decide_eq_true sentLater⟩
      · rw [List.filter_cons_of_neg (by simpa using sent)] at split
        rw [if_neg sent, if_neg sent, Set.empty_union, List.flatten_nil,
          List.nil_append]
        apply ih (joins.handled limit pkt) _ later
          ⟨slicedLater, syn, others, split, flagged, numbered, noSyns⟩
        rw [joins.bufferFrom_other limit here sent]
        exact unused

end Runs

/-! ### The engine -/

theorem deliveredFrom_own (reasm settings : StreamReassembler)
    (a b : Endpoint) (packets : List TcpPacket) :
    deliveredFrom a b packets (StreamReassembler.machine.trace reasm packets) =
      deliveredFrom a b
        (settings.lanes.inputsFor (normalisedId a b) packets)
        (settings.lanes.outputsFor StreamReassembler.machine
          (normalisedId a b) reasm packets) := by
  induction packets generalizing reasm with
  | nil => rfl
  | cons pkt rest ih =>
      rw [Machine.trace_cons, deliveredFrom_cons, ih, Lanes.inputsFor_cons,
        Lanes.outputsFor_cons]
      have key : settings.lanes.key pkt = pkt.connId := rfl
      rw [key]
      by_cases own : pkt.connId = normalisedId a b
      · rw [if_pos own, if_pos own, deliveredFrom_cons]
      · have notSent : ¬pkt.SentBy a b := fun sent =>
          own (TcpPacket.connId_of_sentBy sent)
        rw [if_neg own, if_neg own, if_neg notSent, List.nil_append]

theorem filter_own (settings : StreamReassembler) (a b : Endpoint)
    (packets : List TcpPacket) :
    (settings.lanes.inputsFor (normalisedId a b) packets).filter
        (fun pkt => pkt.SentBy a b) =
      packets.filter fun pkt => pkt.SentBy a b := by
  unfold Lanes.inputsFor
  rw [List.filter_filter]
  apply List.filter_congr
  intro pkt _member
  rw [Bool.and_eq_left_iff_imp]
  intro sent
  exact decide_eq_true (TcpPacket.connId_of_sentBy (of_decide_eq_true sent))

theorem sentPositions_filter {a b : Endpoint} {isn : Int}
    {packets packets' : List TcpPacket}
    (same : packets.filter (fun pkt => pkt.SentBy a b) =
      packets'.filter fun pkt => pkt.SentBy a b) :
    sentPositions a b isn packets = sentPositions a b isn packets' := by
  have among : ∀ (pkts : List TcpPacket) (position : Nat),
      position ∈ sentPositions a b isn pkts ↔
        ∃ pkt ∈ pkts.filter (fun pkt => pkt.SentBy a b),
          position ∈ pkt.positions isn := by
    intro pkts position
    simp only [sentPositions, Set.mem_ofPred_eq, List.mem_filter,
      decide_eq_true_eq, and_assoc]
  ext position
  rw [among, among, same]

theorem Sends.of_filter {a b : Endpoint} {stream : Bytes} {isn : Int}
    {packets own : List TcpPacket} (sends : Sends a b stream isn packets)
    (subset : own ⊆ packets)
    (same : own.filter (fun pkt => pkt.SentBy a b) =
      packets.filter fun pkt => pkt.SentBy a b) :
    Sends a b stream isn own where
  sliced pkt member := sends.sliced pkt (subset member)
  opening := by
    rw [same]
    exact sends.opening

section Engine

variable {reasm : StreamReassembler} {packets : List TcpPacket}
  {a b : Endpoint} {stream : Bytes} {isn : Int}

/-- What the engine knows of the stream at the end of a capture. -/
theorem listening_engine (room : reasm.RoomFor packets)
    (separate : reasm.outputMode = .separate)
    (noFill : reasm.fillGaps = false)
    (untracked : reasm.connections.get? (normalisedId a b) = none)
    (sends : Sends a b stream isn packets) :
    Listening a b stream isn (sentPositions a b isn packets)
      (deliveredFrom a b packets
        (StreamReassembler.machine.trace reasm packets)).flatten
      (reasm.lanes.current (StreamReassembler.machine.run reasm packets)
        (normalisedId a b)) := by
  have own := filter_own reasm a b packets
  have alone : reasm.lanes.lane = Connection.alone reasm.maxBufferPerDir := by
    unfold StreamReassembler.lanes Connection.alone
    rw [separate, noFill]
  have fresh : reasm.lanes.current reasm (normalisedId a b) =
      ConnId.opened (normalisedId a b) := by
    change (reasm.connections.get? (normalisedId a b)).getD _ = _
    rw [untracked]
    rfl
  have joins : Joins a b (ConnId.opened (normalisedId a b)) :=
    ⟨rfl, Connection.isRead_fresh _ _ _ _⟩
  have unused : (ConnId.opened (normalisedId a b)).bufferFrom a = {} := by
    unfold Connection.bufferFrom
    cases (ConnId.opened (normalisedId a b)).direction a.1 a.2 with
    | c2s => rfl
    | s2c => rfl
  obtain ⟨ends, said⟩ := (StreamReassembler.separates reasm).never_dropped rfl
    packets (room.keeps (normalisedId a b))
  rw [deliveredFrom_own reasm reasm, ends, said, fresh, alone,
    ← sentPositions_filter own]
  have subset : reasm.lanes.inputsFor (normalisedId a b) packets ⊆ packets :=
    List.filter_subset_self _
  refine joins.run unused ?_ (sends.of_filter subset own)
  intro pkt member
  exact of_decide_eq_true (List.mem_filter.mp member).2

theorem Listening.output_eq {received : Set Nat} {output : Bytes}
    {conn : Connection}
    (listening : Listening a b stream isn received output conn) :
    ∃ count, output = stream.take count ∧
      LongestPrefix received stream.length count := by
  refine ⟨_, ?_, listening.reassembled.longestPrefix⟩
  have content := listening.reassembled.content_eq
  have read : (conn.bufferFrom a).contiguous = [] := listening.read _
  rw [read, List.append_nil] at content
  exact content

/-- While the packets of one endpoint are fed, whatever else is in the capture,
the callbacks get the longest prefix of its stream that the packets cover. -/
theorem delivered_longest_prefix (room : reasm.RoomFor packets)
    (separate : reasm.outputMode = .separate)
    (noFill : reasm.fillGaps = false)
    (untracked : reasm.connections.get? (normalisedId a b) = none)
    (sends : Sends a b stream isn packets) :
    ∃ count,
      (deliveredFrom a b packets
        (StreamReassembler.machine.trace reasm packets)).flatten =
          stream.take count ∧
      LongestPrefix (sentPositions a b isn packets) stream.length count :=
  (listening_engine room separate noFill untracked sends).output_eq

end Engine

/-- The halves of a stream of four bytes, the second one first, and between them
a packet of another connection. -/
theorem delivered_longest_prefix_reversed :
    let syn : TcpPacket :=
      { src := ⟨10, 0, 0, 1⟩, dst := ⟨10, 0, 0, 2⟩, sport := 1000, dport := 80
        seq := 100, ack := 0, flags := thSyn, data := [] }
    let first := { syn with seq := 101, flags := thAck, data := [1, 2] }
    let second := { syn with seq := 103, flags := thAck, data := [3, 4] }
    let packets := [syn, second, { second with sport := 1001 }, first]
    ∃ count,
      (deliveredFrom syn.source syn.destination packets
        (StreamReassembler.machine.trace {} packets)).flatten =
          ([1, 2, 3, 4] : Bytes).take count ∧
      LongestPrefix (sentPositions syn.source syn.destination 100 packets) 4
        count := by
  intro syn first second packets
  have apart : ({ second with sport := 1001 } : TcpPacket).source ≠
      syn.source := by decide
  have room : StreamReassembler.RoomFor {} packets :=
    { ids := packets.map TcpPacket.connId
      few := by decide
      tracked := fun entry member => by cases member
      seen := fun pkt member => List.mem_map_of_mem member }
  have sends : Sends syn.source syn.destination [1, 2, 3, 4] 100 packets :=
    { sliced := by
        intro pkt member sent
        simp only [packets, List.mem_cons, List.not_mem_nil, or_false] at member
        rcases member with rfl | rfl | rfl | rfl
        · exact ⟨0, 0, by decide, rfl⟩
        · exact ⟨2, 4, by decide, rfl⟩
        · exact absurd sent.1 apart
        · exact ⟨0, 2, by decide, rfl⟩
      opening := by
        refine ⟨syn, [second, first], by decide, by decide, rfl, ?_⟩
        intro pkt member
        simp only [List.mem_cons, List.not_mem_nil, or_false] at member
        rcases member with rfl | rfl
        · exact thAck_noSyn
        · exact thAck_noSyn }
  exact delivered_longest_prefix room rfl rfl rfl sends

/-! ### Line parsers -/

/-- Only the stream matters, not the segments it comes in. -/
theorem lineParsers_segments (stream : Bytes) (segments : Cutting stream) :
    Ftp.FTPControlParser.fresh.feedAll segments.pieces =
        Ftp.FTPControlParser.fresh.feed stream ∧
      Smtp.SMTP.fresh.feedAll segments.pieces =
        Smtp.SMTP.fresh.feed stream ∧
      Imap.IMAPStreamParser.fresh.feedAll segments.pieces =
        Imap.IMAPStreamParser.fresh.feed stream :=
  ⟨Ftp.FTPControlParser.feedAll_eq_feed segments,
    Smtp.SMTP.feedAll_eq_feed segments,
    Imap.IMAPStreamParser.feedAll_eq_feed segments⟩

/-- A parser that is fed what the engine delivers for one endpoint ends up as if
it had been fed, in one piece, the longest prefix of the stream that the packets
cover. -/
theorem lineParsers_behind_engine {reasm : StreamReassembler}
    {packets : List TcpPacket} (room : reasm.RoomFor packets)
    (separate : reasm.outputMode = .separate)
    (noFill : reasm.fillGaps = false) {a b : Endpoint}
    (untracked : reasm.connections.get? (normalisedId a b) = none)
    {stream : Bytes} {isn : Int} (sends : Sends a b stream isn packets) :
    let pieces := deliveredFrom a b packets
      (StreamReassembler.machine.trace reasm packets)
    ∃ count,
      LongestPrefix (sentPositions a b isn packets) stream.length count ∧
      Ftp.FTPControlParser.fresh.feedAll pieces =
        Ftp.FTPControlParser.fresh.feed (stream.take count) ∧
      Smtp.SMTP.fresh.feedAll pieces =
        Smtp.SMTP.fresh.feed (stream.take count) ∧
      Imap.IMAPStreamParser.fresh.feedAll pieces =
        Imap.IMAPStreamParser.fresh.feed (stream.take count) := by
  intro pieces
  obtain ⟨count, joined, longest⟩ :=
    (listening_engine room separate noFill untracked sends).output_eq
  let segments : Cutting (stream.take count) := { pieces, joined }
  exact ⟨count, longest, Ftp.FTPControlParser.feedAll_eq_feed segments,
    Smtp.SMTP.feedAll_eq_feed segments,
    Imap.IMAPStreamParser.feedAll_eq_feed segments⟩

/-- A line in two segments, the second one first. -/
theorem lineParsers_behind_engine_reversed :
    let syn : TcpPacket :=
      { src := ⟨10, 0, 0, 1⟩, dst := ⟨10, 0, 0, 2⟩, sport := 1000, dport := 25
        seq := 100, ack := 0, flags := thSyn, data := [] }
    let first := { syn with seq := 101, flags := thAck, data := [81, 85] }
    let second := { syn with seq := 103, flags := thAck, data := [13, 10] }
    let packets := [syn, second, first]
    let pieces := deliveredFrom syn.source syn.destination packets
      (StreamReassembler.machine.trace {} packets)
    ∃ count,
      LongestPrefix (sentPositions syn.source syn.destination 100 packets) 4
        count ∧
      Ftp.FTPControlParser.fresh.feedAll pieces =
        Ftp.FTPControlParser.fresh.feed
          (([81, 85, 13, 10] : Bytes).take count) ∧
      Smtp.SMTP.fresh.feedAll pieces =
        Smtp.SMTP.fresh.feed (([81, 85, 13, 10] : Bytes).take count) ∧
      Imap.IMAPStreamParser.fresh.feedAll pieces =
        Imap.IMAPStreamParser.fresh.feed
          (([81, 85, 13, 10] : Bytes).take count) := by
  intro syn first second packets
  have room : StreamReassembler.RoomFor {} packets :=
    { ids := packets.map TcpPacket.connId
      few := by decide
      tracked := fun entry member => by cases member
      seen := fun pkt member => List.mem_map_of_mem member }
  have sends : Sends syn.source syn.destination [81, 85, 13, 10] 100 packets :=
    { sliced := by
        intro pkt member _sent
        simp only [packets, List.mem_cons, List.not_mem_nil, or_false] at member
        rcases member with rfl | rfl | rfl
        · exact ⟨0, 0, by decide, rfl⟩
        · exact ⟨2, 4, by decide, rfl⟩
        · exact ⟨0, 2, by decide, rfl⟩
      opening := by
        refine ⟨syn, [second, first], by decide, by decide, rfl, ?_⟩
        intro pkt member
        simp only [List.mem_cons, List.not_mem_nil, or_false] at member
        rcases member with rfl | rfl
        · exact thAck_noSyn
        · exact thAck_noSyn }
  exact lineParsers_behind_engine room rfl rfl rfl sends

end DpktNg.Stream
