/-
One TCP connection with a reassembly buffer for each direction, `Connection` of
dpkt/stream.py, and the engine, `StreamReassembler`: a bounded table of
connections, keyed by the normalised pair of endpoints.  The `client_isn` and
`server_isn` of a connection are set and never read, so they have no counterpart
here.

A registered callback is a function outside the library.  What is modelled of
the callbacks is the data that every one of them is called with.
-/

import DpktNg.Stream.DirectionBuffer
import DpktNg.Python.Str
import DpktNg.Library.Dict

namespace DpktNg.Stream

open Library

inductive Direction where
  | c2s
  | s2c
deriving DecidableEq, Repr

structure Connection where
  srcIp : PyStr
  srcPort : Nat
  dstIp : PyStr
  dstPort : Nat
  c2s : DirectionBuffer := {}
  s2c : DirectionBuffer := {}
deriving DecidableEq, Repr

/-- One entry `(direction, rel_seq, ack, data)` of the list `merged_data`
sorts. -/
structure Item where
  direction : Direction
  relSeq : Int
  ack : Int
  data : Bytes
deriving DecidableEq, Repr

/-- The relative sequence number just behind the item. -/
def Item.stop (item : Item) : Int := item.relSeq + item.data.length

def Direction.rank : Direction → Nat
  | .c2s => 0
  | .s2c => 1

/-- The order of `sort_key`, pairs compared from the left. -/
def Item.keyLe (a b : Item) : Prop :=
  a.relSeq < b.relSeq ∨
    (a.relSeq = b.relSeq ∧ a.direction.rank ≤ b.direction.rank)

instance : DecidableRel Item.keyLe := fun a b =>
  inferInstanceAs (Decidable (a.relSeq < b.relSeq ∨
    (a.relSeq = b.relSeq ∧ a.direction.rank ≤ b.direction.rank)))

def contiguousItems (direction : Direction) (buf : DirectionBuffer) :
    List Item :=
  if buf.contiguous = [] then []
  else
    [{ direction
       relSeq := buf.nextSeq - buf.contiguous.length
       ack := 0
       data := buf.contiguous }]

def segmentItems (direction : Direction) (buf : DirectionBuffer) :
    List Item :=
  buf.segments.map fun seg =>
    { direction, relSeq := seg.relSeq, ack := seg.ack, data := seg.data }

def directionItems (direction : Direction) (buf : DirectionBuffer) :
    List Item :=
  contiguousItems direction buf ++ segmentItems direction buf

/-- What the loop appends to the result for one item of a direction whose
output has reached `pos`; `none` where the loop skips the item. -/
def Item.output (item : Item) (fill : Bool) (pos : Option Int) :
    Option Bytes :=
  match pos with
  | none => some item.data
  | some pos =>
      if item.relSeq > pos ∧ fill = false then none
      else
        let filler := zeros (item.relSeq - pos).toNat
        let overlap := max 0 (pos - item.relSeq)
        some (filler ++ item.data.drop overlap.toNat)

/-- The body of the loop, on `pos_by_dir` and the result so far. -/
def mergeItem (fill : Bool) (state : (Direction → Option Int) × Bytes)
    (item : Item) : (Direction → Option Int) × Bytes :=
  let pos := state.1 item.direction
  match item.output fill pos with
  | none => state
  | some data =>
      let reached := max (pos.getD 0) (item.relSeq + item.data.length)
      (Function.update state.1 item.direction (some reached), state.2 ++ data)

def mergeItems (fill : Bool) (items : List Item) : Bytes :=
  ((items.insertionSort Item.keyLe).foldl (mergeItem fill)
    (fun _direction => none, [])).2

/-- What `merged_data` leaves of a buffer. -/
def DirectionBuffer.cleared (buf : DirectionBuffer) : DirectionBuffer :=
  { buf with contiguous := [], segments := [], totalBuffered := 0 }

namespace Connection

def connId (conn : Connection) : PyStr × Nat × PyStr × Nat :=
  (conn.srcIp, conn.srcPort, conn.dstIp, conn.dstPort)

def buffer (conn : Connection) : Direction → DirectionBuffer
  | .c2s => conn.c2s
  | .s2c => conn.s2c

def setBuffer (conn : Connection) (buf : DirectionBuffer) :
    Direction → Connection
  | .c2s => { conn with c2s := buf }
  | .s2c => { conn with s2c := buf }

def isClosed (conn : Connection) : Bool :=
  conn.c2s.isComplete && conn.s2c.isComplete

/-- The direction of a packet that comes from the given endpoint. -/
def direction (conn : Connection) (srcIp : PyStr) (sport : Nat) : Direction :=
  if srcIp = conn.srcIp ∧ sport = conn.srcPort then .c2s else .s2c

def feedTo (conn : Connection) (direction : Direction) (seq ack : Int)
    (data : Bytes) (flags : Nat) : Connection :=
  conn.setBuffer ((conn.buffer direction).feed seq ack data flags) direction

def feed (conn : Connection) (srcIp : PyStr) (sport : Nat) (seq ack : Int)
    (data : Bytes) (flags : Nat) : Connection :=
  conn.feedTo (conn.direction srcIp sport) seq ack data flags

def items (conn : Connection) : List Item :=
  directionItems .c2s conn.c2s ++ directionItems .s2c conn.s2c

def mergedData (conn : Connection) (fill : Bool) : Connection × Bytes :=
  if conn.items = [] then (conn, [])
  else
    ({ conn with c2s := conn.c2s.cleared, s2c := conn.s2c.cleared },
      mergeItems fill conn.items)

@[simp] theorem buffer_setBuffer_same (conn : Connection)
    (buf : DirectionBuffer) (direction : Direction) :
    (conn.setBuffer buf direction).buffer direction = buf := by
  cases direction <;> rfl

theorem buffer_setBuffer_other (conn : Connection) (buf : DirectionBuffer)
    {direction other : Direction} (different : other ≠ direction) :
    (conn.setBuffer buf direction).buffer other = conn.buffer other := by
  cases direction <;> cases other <;> first | rfl | exact absurd rfl different

@[simp] theorem connId_setBuffer (conn : Connection) (buf : DirectionBuffer)
    (direction : Direction) :
    (conn.setBuffer buf direction).connId = conn.connId := by
  cases direction <;> rfl

@[simp] theorem connId_feed (conn : Connection) (srcIp : PyStr) (sport : Nat)
    (seq ack : Int) (data : Bytes) (flags : Nat) :
    (conn.feed srcIp sport seq ack data flags).connId = conn.connId :=
  connId_setBuffer conn _ _

@[simp] theorem connId_mergedData (conn : Connection) (fill : Bool) :
    (conn.mergedData fill).1.connId = conn.connId := by
  unfold mergedData
  split <;> rfl

inductive Call where
  | feed (direction : Direction) (seq ack : Int) (payload : Bytes)
      (flags : Nat)
  | mergedData (fill : Bool)
deriving DecidableEq, Repr

def call (conn : Connection) : Call → Connection × Bytes
  | .feed direction seq ack payload flags =>
      (conn.feedTo direction seq ack payload flags, [])
  | .mergedData fill => conn.mergedData fill

def machine : Machine Connection Call Bytes := ⟨call⟩

end Connection

abbrev Endpoint := PyStr × Nat

abbrev ConnId := PyStr × Nat × PyStr × Nat

/-- `a <= b` on pairs of an address and a port. -/
def endpointLe (a b : Endpoint) : Bool :=
  a.1 < b.1 || (a.1 == b.1 && a.2 ≤ b.2)

/-- `a + b` on two endpoints. -/
def joinEndpoints (a b : Endpoint) : ConnId := (a.1, a.2, b.1, b.2)

def normalisedId (a b : Endpoint) : ConnId :=
  if endpointLe a b then joinEndpoints a b else joinEndpoints b a

/-- The fields of an IP packet and of the TCP segment in it that `feed`
reads. -/
structure TcpPacket where
  src : InAddr
  dst : InAddr
  sport : Nat
  dport : Nat
  seq : Int
  ack : Int
  flags : Nat
  data : Bytes
deriving DecidableEq, Repr

namespace TcpPacket

def source (pkt : TcpPacket) : Endpoint := (inetNtoa pkt.src, pkt.sport)

def destination (pkt : TcpPacket) : Endpoint := (inetNtoa pkt.dst, pkt.dport)

def connId (pkt : TcpPacket) : ConnId :=
  normalisedId pkt.source pkt.destination

/-- The packet with source and destination exchanged. -/
def swap (pkt : TcpPacket) : TcpPacket :=
  { pkt with
    src := pkt.dst, dst := pkt.src, sport := pkt.dport, dport := pkt.sport }

end TcpPacket

/-- `'separate'` is the default; any other value makes `feed` merge. -/
inductive OutputMode where
  | separate
  | merged
deriving DecidableEq, Repr

/-- Read what has become available, in the mode of the engine. -/
def Connection.deliver (conn : Connection) (mode : OutputMode)
    (fill : Bool) : Connection × List Bytes :=
  match mode with
  | .separate =>
      let (c2s, dataC2s) := conn.c2s.getData fill
      let (s2c, dataS2c) := conn.s2c.getData fill
      ({ conn with c2s, s2c }, [dataC2s, dataS2c])
  | .merged =>
      let (merged, data) := conn.mergedData fill
      (merged, [data])

/-- The check of one buffer against `max_buffer_per_dir`.  What `get_data`
returns is dropped. -/
def DirectionBuffer.enforceLimit (buf : DirectionBuffer) (limit : Nat)
    (fill : Bool) : DirectionBuffer :=
  if buf.totalBuffered > limit then (buf.getData fill).1 else buf

def Connection.enforceLimit (conn : Connection) (limit : Nat)
    (fill : Bool) : Connection :=
  { conn with
    c2s := conn.c2s.enforceLimit limit fill
    s2c := conn.s2c.enforceLimit limit fill }

def Connection.handle (conn : Connection) (limit : Nat) (mode : OutputMode)
    (fill : Bool) (pkt : TcpPacket) : Connection × List Bytes :=
  let fed := conn.feed (inetNtoa pkt.src) pkt.sport pkt.seq pkt.ack pkt.data
    pkt.flags
  let (read, data) := fed.deliver mode fill
  (read.enforceLimit limit fill, data)

/-- No contiguous bytes and no segments in either direction. -/
def Connection.isDrained (conn : Connection) : Bool :=
  conn.c2s.contiguous.isEmpty && conn.c2s.segments.isEmpty &&
    conn.s2c.contiguous.isEmpty && conn.s2c.segments.isEmpty

/-- The bytes a connection holds out of order, as the eviction counts them. -/
def Connection.backlog (conn : Connection) : Int :=
  conn.c2s.totalBuffered - conn.c2s.contiguous.length +
    conn.s2c.totalBuffered - conn.s2c.contiguous.length

/-- `max(items, key=key)`, which keeps the first of several largest items. -/
def maxByKey {α : Type} (key : α → Int) (items : List α) : Option α :=
  @List.argmax α Int Int.instLinearOrder.toPreorder _ key items

structure StreamReassembler where
  maxConnections : Nat := 10000
  maxBufferPerDir : Nat := 16 * 1024 * 1024
  outputMode : OutputMode := .separate
  fillGaps : Bool := false
  connections : Dict ConnId Connection := .empty

namespace StreamReassembler

/-- The entry that `_evict_one` deletes: the first closed connection with
nothing buffered, else the first closed one, else the first of those with the
largest backlog. -/
def victim (reasm : StreamReassembler) : Option (ConnId × Connection) :=
  let entries := reasm.connections.entries
  match entries.find? fun entry => entry.2.isClosed && entry.2.isDrained with
  | some entry => some entry
  | none =>
      match entries.find? fun entry => entry.2.isClosed with
      | some entry => some entry
      | none => maxByKey (fun entry => entry.2.backlog) entries

def evictOne (reasm : StreamReassembler) : StreamReassembler :=
  match reasm.victim with
  | some entry =>
      { reasm with connections := reasm.connections.erase entry.1 }
  | none => reasm

def store (reasm : StreamReassembler) (connId : ConnId) (conn : Connection) :
    StreamReassembler :=
  { reasm with connections := reasm.connections.set connId conn }

/-- The table with an entry for `conn_id`, and that entry's connection. -/
def track (reasm : StreamReassembler) (connId : ConnId) :
    StreamReassembler × Connection :=
  match reasm.connections.get? connId with
  | some conn => (reasm, conn)
  | none =>
      let kept :=
        if reasm.connections.size ≥ reasm.maxConnections then reasm.evictOne
        else reasm
      let (srcIp, srcPort, dstIp, dstPort) := connId
      let conn : Connection := { srcIp, srcPort, dstIp, dstPort }
      (kept.store connId conn, conn)

structure FeedResult where
  /-- the connection that `feed` returns -/
  connection : Connection
  /-- what each callback is called with, in order -/
  delivered : List Bytes

def feed (reasm : StreamReassembler) (pkt : TcpPacket) :
    StreamReassembler × FeedResult :=
  let (tracked, conn) := reasm.track pkt.connId
  let (connection, data) := conn.handle reasm.maxBufferPerDir
    reasm.outputMode reasm.fillGaps pkt
  (tracked.store pkt.connId connection,
    { connection, delivered := data.filter fun bytes => bytes ≠ [] })

def machine : Machine StreamReassembler TcpPacket FeedResult := ⟨feed⟩

end StreamReassembler

end DpktNg.Stream
