/-
The engine seen through one connection: what `feed` returns for the packets of a
connection is what a connection on its own would return, since the table last
had no entry for it.  Where the table has room for all connections nothing is
evicted, so how the packets of several connections are interleaved does not
matter.
-/

import DpktNg.Library.Demultiplexing
import DpktNg.Stream.ConnectionTable

namespace DpktNg.Stream

open Library

/-- The connection that `track` makes for a key. -/
def ConnId.opened : ConnId → Connection
  | (srcIp, srcPort, dstIp, dstPort) => { srcIp, srcPort, dstIp, dstPort }

/-- What `feed` does with a packet once it has found the connection. -/
def Connection.handled (conn : Connection) (limit : Nat) (mode : OutputMode)
    (fill : Bool) (pkt : TcpPacket) :
    Connection × StreamReassembler.FeedResult :=
  let (connection, data) := conn.handle limit mode fill pkt
  (connection, { connection, delivered := data.filter fun bytes => bytes ≠ [] })

namespace StreamReassembler

/-- The connections of an engine, each with the settings of the engine. -/
def lanes (settings : StreamReassembler) :
    Lanes StreamReassembler TcpPacket FeedResult ConnId Connection where
  lane :=
    ⟨fun conn pkt => conn.handled settings.maxBufferPerDir settings.outputMode
      settings.fillGaps pkt⟩
  key := TcpPacket.connId
  fresh := ConnId.opened
  lookup reasm connId := reasm.connections.get? connId

def HasSettings (settings reasm : StreamReassembler) : Prop :=
  reasm.configuration = settings.configuration

section Steps

variable {settings reasm : StreamReassembler}

theorem track_connection (settings reasm : StreamReassembler)
    (connId : ConnId) :
    (reasm.track connId).2 = settings.lanes.current reasm connId := by
  change _ = (reasm.connections.get? connId).getD (ConnId.opened connId)
  cases found : reasm.connections.get? connId with
  | some conn => rw [track_of_present found, Option.getD_some]
  | none =>
      unfold track
      rw [found]
      rfl

theorem get?_evictOne (reasm : StreamReassembler) (connId : ConnId) :
    reasm.evictOne.connections.get? connId = reasm.connections.get? connId ∨
      reasm.evictOne.connections.get? connId = none := by
  cases kept : reasm.evictOne.connections.get? connId with
  | none => exact Or.inr rfl
  | some conn =>
      have member := evictOne_subset reasm (Dict.get?_eq_some.mp kept)
      exact Or.inl (Dict.get?_eq_some.mpr member).symm

/-- Tracking a connection leaves another one or evicts it, and evicts it only
where the table is full. -/
theorem get?_track (reasm : StreamReassembler) {connId other : ConnId}
    (different : other ≠ connId) :
    (reasm.track connId).1.connections.get? other =
        reasm.connections.get? other ∨
      (reasm.connections.get? connId = none ∧
        reasm.connections.size ≥ reasm.maxConnections ∧
        (reasm.track connId).1.connections.get? other = none) := by
  cases found : reasm.connections.get? connId with
  | some conn =>
      rw [track_of_present found]
      exact Or.inl rfl
  | none =>
      have stored : ∀ (kept : StreamReassembler) (conn : Connection),
          (kept.store connId conn).connections.get? other =
            kept.connections.get? other :=
        fun kept conn => Dict.get?_set_other _ conn different
      unfold track
      rw [found]
      dsimp only
      rw [stored]
      by_cases full : reasm.connections.size ≥ reasm.maxConnections
      · rw [if_pos full]
        rcases get?_evictOne reasm other with same | evicted
        · exact Or.inl same
        · exact Or.inr ⟨rfl, full, evicted⟩
      · rw [if_neg full]
        exact Or.inl rfl

theorem feed_own (same : HasSettings settings reasm) (pkt : TcpPacket) :
    (reasm.feed pkt).1.connections.get? pkt.connId =
        some (settings.lanes.lane.step
          (settings.lanes.current reasm pkt.connId) pkt).1 ∧
      (reasm.feed pkt).2 =
        (settings.lanes.lane.step
          (settings.lanes.current reasm pkt.connId) pkt).2 := by
  simp only [HasSettings, configuration, Prod.mk.injEq] at same
  obtain ⟨_room, sameLimit, sameMode, sameFill⟩ := same
  rw [← track_connection]
  change _ = some ((reasm.track pkt.connId).2.handled settings.maxBufferPerDir
      settings.outputMode settings.fillGaps pkt).1 ∧
    _ = ((reasm.track pkt.connId).2.handled settings.maxBufferPerDir
      settings.outputMode settings.fillGaps pkt).2
  rw [← sameLimit, ← sameMode, ← sameFill]
  exact ⟨Dict.get?_set_same _ _ _, rfl⟩

theorem get?_feed_other (reasm : StreamReassembler) {pkt : TcpPacket}
    {other : ConnId} (different : other ≠ pkt.connId) :
    (reasm.feed pkt).1.connections.get? other =
      (reasm.track pkt.connId).1.connections.get? other :=
  Dict.get?_set_other _ _ different

end Steps

theorem separates (settings : StreamReassembler) :
    settings.lanes.Separates machine (HasSettings settings) where
  valid_step reasm pkt same := (reasm.feed_configuration pkt).trans same
  own _reasm pkt same := feed_own same pkt
  others reasm pkt other _same different := by
    change (reasm.feed pkt).1.connections.get? other = _ ∨
      (reasm.feed pkt).1.connections.get? other = none
    rw [reasm.get?_feed_other different]
    rcases reasm.get?_track different with same | ⟨_new, _full, gone⟩
    · exact Or.inl same
    · exact Or.inr gone

/-- A tracked connection is in the state that its packets lead to since it was
last absent from the table, and `feed` returned for them what it would return
with no other connection there. -/
theorem tracked_since_opened (reasm : StreamReassembler)
    (packets : List TcpPacket) {connId : ConnId} {conn : Connection}
    (untracked : reasm.connections.get? connId = none)
    (tracked : (machine.run reasm packets).connections.get? connId =
      some conn) :
    ∃ before after, packets = before ++ after ∧
      (machine.run reasm before).connections.get? connId = none ∧
      (∀ middle, middle <+: after → middle ≠ [] →
        (machine.run reasm (before ++ middle)).connections.get? connId ≠
          none) ∧
      conn = reasm.lanes.lane.run connId.opened
        (after.filter fun pkt => pkt.connId = connId) ∧
      reasm.lanes.outputsFor machine connId (machine.run reasm before) after =
        reasm.lanes.lane.trace connId.opened
          (after.filter fun pkt => pkt.connId = connId) :=
  (separates reasm).since_opened rfl packets untracked tracked

/-- A table of one entry: the second connection evicts the first. -/
theorem tracked_since_opened_evicting :
    let pkt : TcpPacket :=
      { src := ⟨10, 0, 0, 1⟩, dst := ⟨10, 0, 0, 2⟩, sport := 1000, dport := 80
        seq := 1, ack := 0, flags := thSyn, data := [] }
    let later := { pkt with sport := 1001 }
    let reasm : StreamReassembler := { maxConnections := 1 }
    ∃ before after, [pkt, later] = before ++ after ∧
      (machine.run reasm before).connections.get? later.connId = none := by
  intro pkt later reasm
  have stored := Dict.get?_set_same
    ((machine.run reasm [pkt]).track later.connId).1.connections later.connId
    ((machine.run reasm [pkt]).feed later).2.connection
  obtain ⟨before, after, split, absent, _rest⟩ :=
    tracked_since_opened reasm [pkt, later] rfl stored
  exact ⟨before, after, split, absent⟩

/-- At most `max_connections` keys, those of the table and of the packets. -/
structure RoomFor (reasm : StreamReassembler) (packets : List TcpPacket) where
  ids : List ConnId
  few : ids.length ≤ reasm.maxConnections
  tracked : ∀ entry ∈ reasm.connections.entries, entry.1 ∈ ids
  seen : ∀ pkt ∈ packets, pkt.connId ∈ ids

theorem keys_track {reasm : StreamReassembler} {connId : ConnId}
    {entry : ConnId × Connection}
    (member : entry ∈ (reasm.track connId).1.connections.entries) :
    entry.1 = connId ∨ entry ∈ reasm.connections.entries := by
  cases found : reasm.connections.get? connId with
  | some conn =>
      rw [track_of_present found] at member
      exact Or.inr member
  | none =>
      unfold track at member
      rw [found] at member
      rcases (Dict.mem_set _ _ _ _).mp member with new | ⟨old, _different⟩
      · rw [new]
        exact Or.inl rfl
      · refine Or.inr ?_
        split at old
        · exact evictOne_subset reasm old
        · exact old

theorem RoomFor.tracked_run {reasm : StreamReassembler}
    {packets : List TcpPacket} (room : reasm.RoomFor packets)
    {before : List TcpPacket} (early : before ⊆ packets) :
    ∀ entry ∈ (machine.run reasm before).connections.entries,
      entry.1 ∈ room.ids := by
  apply machine.invariant (fun pkt => pkt.connId ∈ room.ids)
    (fun state => ∀ entry ∈ state.connections.entries, entry.1 ∈ room.ids)
    _ reasm room.tracked before fun pkt member => room.seen pkt (early member)
  intro state pkt seen holds entry member
  rcases (Dict.mem_set _ _ _ _).mp member with new | ⟨old, _different⟩
  · rw [new]
    exact seen
  · rcases keys_track old with same | present
    · rw [same]
      exact seen
    · exact holds entry present

theorem RoomFor.not_full {reasm : StreamReassembler}
    {packets : List TcpPacket} (room : reasm.RoomFor packets)
    {state : StreamReassembler} {pkt : TcpPacket}
    (tracked : ∀ entry ∈ state.connections.entries, entry.1 ∈ room.ids)
    (seen : pkt.connId ∈ room.ids)
    (new : state.connections.get? pkt.connId = none) :
    state.connections.size < reasm.maxConnections := by
  have distinct : (pkt.connId ::
      state.connections.entries.map Prod.fst).Nodup :=
    List.nodup_cons.mpr ⟨Dict.get?_eq_none.mp new, state.connections.distinct⟩
  have among : pkt.connId :: state.connections.entries.map Prod.fst ⊆
      room.ids := by
    intro key member
    rcases List.mem_cons.mp member with same | old
    · rw [same]
      exact seen
    · obtain ⟨entry, present, keyed⟩ := List.mem_map.mp old
      rw [← keyed]
      exact tracked entry present
  have fits := (List.subperm_of_subset distinct among).length_le
  rw [List.length_cons, List.length_map] at fits
  exact Nat.lt_of_lt_of_le fits room.few

theorem RoomFor.keeps {reasm : StreamReassembler} {packets : List TcpPacket}
    (room : reasm.RoomFor packets) (connId : ConnId) :
    reasm.lanes.Keeps machine connId reasm packets := by
  intro before pkt after split tracked
  have early : before ⊆ packets := by
    rw [split]
    exact List.subset_append_left _ _
  have seen : pkt.connId ∈ room.ids := by
    apply room.seen
    rw [split]
    exact List.mem_append_right _ List.mem_cons_self
  have sameRoom : (machine.run reasm before).maxConnections =
      reasm.maxConnections := congrArg Prod.fst (reasm.run_configuration before)
  rw [machine.run_snoc]
  change ((machine.run reasm before).feed pkt).1.connections.get? connId ≠ none
  by_cases own : connId = pkt.connId
  · have stored := (feed_own (reasm.run_configuration before) pkt).1
    rw [own, stored]
    exact Option.some_ne_none _
  · rw [get?_feed_other _ own]
    rcases get?_track (machine.run reasm before) own with
      same | ⟨new, full, _gone⟩
    · rw [same]
      exact tracked
    · have below := room.not_full (room.tracked_run early) seen new
      omega

/-- Two captures with the same packets of each connection, in the order of each
connection, lead to the same entry of each connection and the same results of
`feed` for it: nothing depends on how the connections are interleaved. -/
theorem interleavings_agree {reasm : StreamReassembler}
    {packets packets' : List TcpPacket} (room : reasm.RoomFor packets)
    (sameFlows : ∀ connId : ConnId,
      packets.filter (fun pkt => pkt.connId = connId) =
        packets'.filter fun pkt => pkt.connId = connId)
    (connId : ConnId) :
    (machine.run reasm packets).connections.get? connId =
        (machine.run reasm packets').connections.get? connId ∧
      reasm.lanes.outputsFor machine connId reasm packets =
        reasm.lanes.outputsFor machine connId reasm packets' := by
  have room' : reasm.RoomFor packets' :=
    { ids := room.ids
      few := room.few
      tracked := room.tracked
      seen := by
        intro pkt member
        have own : pkt ∈ packets'.filter fun other =>
            other.connId = pkt.connId :=
          List.mem_filter.mpr ⟨member, decide_eq_true rfl⟩
        rw [← sameFlows] at own
        exact room.seen pkt (List.mem_of_mem_filter own) }
  exact (separates reasm).lookup_eq rfl (sameFlows connId) (room.keeps connId)
    (room'.keeps connId)

/-- Two packets of one connection, before and after one of another. -/
theorem interleavings_agree_swapped :
    let first : TcpPacket :=
      { src := ⟨10, 0, 0, 1⟩, dst := ⟨10, 0, 0, 2⟩, sport := 1000, dport := 80
        seq := 1, ack := 0, flags := thSyn, data := [] }
    let second := { first with seq := 2, flags := thAck, data := [1] }
    let other := { first with sport := 1001 }
    let reasm : StreamReassembler := { maxConnections := 2 }
    (machine.run reasm [first, other, second]).connections.get?
        first.connId =
      (machine.run reasm [first, second, other]).connections.get?
        first.connId := by
  intro first second other reasm
  have apart : first.connId ≠ other.connId := by decide
  have room : reasm.RoomFor [first, other, second] :=
    { ids := [first.connId, other.connId]
      few := Nat.le_refl 2
      tracked := fun entry member => by cases member
      seen := by simp [second, first, TcpPacket.connId, TcpPacket.source,
        TcpPacket.destination] }
  refine (interleavings_agree room ?_ first.connId).1
  intro connId
  have same : second.connId = first.connId := rfl
  simp only [List.filter_cons, List.filter_nil, same]
  by_cases own : first.connId = connId
  · have notOwn : other.connId ≠ connId := fun equal =>
      apart (own.trans equal.symm)
    simp [own, notOwn]
  · simp [own]

end StreamReassembler

end DpktNg.Stream
