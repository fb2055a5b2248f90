/-
The reassembly buffer of one direction of a TCP connection, `DirectionBuffer`
of dpkt/stream.py.

Sequence numbers are Python integers: `seq - self.isn` is an unbounded
subtraction, so they are `Int` here and nothing is reduced modulo 2^32.
-/

import DpktNg.Library.Machine
import DpktNg.Python.Bytes

namespace DpktNg.Stream

open Library

def thFin : Nat := 0x01
def thSyn : Nat := 0x02
def thAck : Nat := 0x10

/-- One entry `(rel_seq, ack, data)` of `segments`. -/
structure Segment where
  relSeq : Int
  ack : Int
  data : Bytes
deriving DecidableEq, Repr

/-- The relative sequence number just behind the segment. -/
def Segment.stop (seg : Segment) : Int := seg.relSeq + seg.data.length

def segmentBytes (segments : List Segment) : Nat :=
  (segments.map fun seg => seg.data.length).sum

/-- The merged data of two segments that touch.  `overlapOff` is where the
second one starts inside the first; `bytearray(new_len)` is filled from the
first and then overwritten by the second. -/
def Segment.mergedData (prev seg : Segment) : Bytes :=
  let overlapOff := (seg.relSeq - prev.relSeq).toNat
  if overlapOff < prev.data.length then
    let newLen := max prev.data.length (overlapOff + seg.data.length)
    let newData := splice (zeros newLen) 0 prev.data
    splice newData overlapOff seg.data
  else
    let gap := overlapOff - prev.data.length
    prev.data ++ zeros gap ++ seg.data

def Segment.merge (prev seg : Segment) : Segment :=
  { prev with data := prev.mergedData seg }

/-- The body of the loop over the sorted segments: `merged[-1]` absorbs the
next segment when it reaches up to its start. -/
def mergeStep (merged : List Segment) (seg : Segment) : List Segment :=
  match merged.getLast? with
  | none => [seg]
  | some prev =>
      if prev.stop ≥ seg.relSeq then merged.dropLast ++ [prev.merge seg]
      else merged ++ [seg]

def mergeSegments (segments : List Segment) : List Segment :=
  segments.foldl mergeStep []

/-- `segments.append(...)` followed by the stable sort on `rel_seq`. -/
def sortedInsert (segments : List Segment) (seg : Segment) : List Segment :=
  (segments ++ [seg]).insertionSort fun a b => a.relSeq ≤ b.relSeq

def insertMerge (segments : List Segment) (seg : Segment) : List Segment :=
  mergeSegments (sortedInsert segments seg)

structure DirectionBuffer where
  isn : Option Int := none
  nextSeq : Int := 0
  finSeq : Option Int := none
  synReceived : Bool := false
  finReceived : Bool := false
  contiguous : Bytes := []
  segments : List Segment := []
  totalBuffered : Int := 0
deriving DecidableEq, Repr

namespace DirectionBuffer

/-- A SYN sets the initial sequence number and rebases `next_seq`. -/
def feedSyn (buf : DirectionBuffer) (seq : Int) (payload : Bytes) :
    DirectionBuffer :=
  let opened := { buf with isn := some seq, synReceived := true, nextSeq := 1 }
  if payload = [] then opened
  else
    { opened with
      contiguous := opened.contiguous ++ payload
      nextSeq := opened.nextSeq + payload.length
      totalBuffered := opened.totalBuffered + payload.length }

def noteFin (buf : DirectionBuffer) (seq : Int) (payload : Bytes)
    (flags : Nat) : DirectionBuffer :=
  if flags &&& thFin ≠ 0 then
    { buf with finSeq := some (seq + payload.length), finReceived := true }
  else buf

/-- The `while` loop that pops the segments the contiguous data has reached.
It carries `next_seq` and `contiguous` and returns the segments left. -/
def cascade (nextSeq : Int) (contiguous : Bytes) :
    List Segment → Int × Bytes × List Segment
  | [] => (nextSeq, contiguous, [])
  | seg :: rest =>
      if seg.relSeq ≤ nextSeq then
        if seg.relSeq + seg.data.length > nextSeq then
          let newStart := nextSeq - seg.relSeq
          cascade (nextSeq + (seg.data.length - newStart))
            (contiguous ++ seg.data.drop newStart.toNat) rest
        else cascade nextSeq contiguous rest
      else (nextSeq, contiguous, seg :: rest)

def appendContiguous (buf : DirectionBuffer) (payload : Bytes) :
    DirectionBuffer :=
  let (nextSeq, contiguous, segments) :=
    cascade (buf.nextSeq + payload.length) (buf.contiguous ++ payload)
      buf.segments
  { buf with
    nextSeq := nextSeq
    contiguous := contiguous
    segments := segments
    totalBuffered := contiguous.length + segmentBytes segments }

def insertOutOfOrder (buf : DirectionBuffer) (seg : Segment) :
    DirectionBuffer :=
  let segments := insertMerge buf.segments seg
  { buf with
    segments := segments
    totalBuffered := buf.contiguous.length + segmentBytes segments }

/-- `feed` from `rel_seq = seq - self.isn` on: drop a retransmission, trim an
overlapping prefix, then append or buffer what is left. -/
def feedPayload (buf : DirectionBuffer) (relSeq ack : Int)
    (payload : Bytes) : DirectionBuffer :=
  if payload = [] then buf
  else if relSeq + payload.length ≤ buf.nextSeq then buf
  else if relSeq < buf.nextSeq then
    buf.appendContiguous (payload.drop (buf.nextSeq - relSeq).toNat)
  else if relSeq = buf.nextSeq then buf.appendContiguous payload
  else buf.insertOutOfOrder { relSeq, ack, data := payload }

def feed (buf : DirectionBuffer) (seq ack : Int) (payload : Bytes)
    (flags : Nat) : DirectionBuffer :=
  if flags &&& thSyn ≠ 0 then buf.feedSyn seq payload
  else
    match buf.isn with
    | none => buf
    | some isn =>
        (buf.noteFin seq payload flags).feedPayload (seq - isn) ack payload

/-- The loop of `get_data(fill_gaps=True)`, from position `pos` on. -/
def fillGaps (result : Bytes) (pos : Int) : List Segment → Bytes
  | [] => result
  | seg :: rest =>
      let gap := seg.relSeq - pos
      if gap > 0 then
        fillGaps (result ++ zeros gap.toNat ++ seg.data)
          (seg.relSeq + seg.data.length) rest
      else fillGaps (result ++ seg.data) (pos + seg.data.length) rest

def getData (buf : DirectionBuffer) (fill : Bool) : DirectionBuffer × Bytes :=
  if fill then
    ({ buf with contiguous := [], segments := [], totalBuffered := 0 },
      fillGaps buf.contiguous buf.nextSeq buf.segments)
  else
    ({ buf with
        contiguous := []
        totalBuffered := buf.totalBuffered - buf.contiguous.length },
      buf.contiguous)

/-- `is_complete`.  A recorded FIN implies a known initial sequence number;
without one the source would raise, which `feed` never leads to. -/
def isComplete (buf : DirectionBuffer) : Bool :=
  match buf.finSeq, buf.isn with
  | some finSeq, some isn =>
      buf.synReceived && buf.finReceived && buf.nextSeq ≥ finSeq - isn &&
        buf.segments.isEmpty
  | _, _ => false

inductive Call where
  | feed (seq ack : Int) (payload : Bytes) (flags : Nat)
  | getData (fill : Bool)
deriving DecidableEq, Repr

def Call.isSyn : Call → Bool
  | .feed _ _ _ flags => flags &&& thSyn ≠ 0
  | .getData _ => false

def Call.payload : Call → Bytes
  | .feed _ _ payload _ => payload
  | .getData _ => []

/-- One call; `feed` returns nothing and `get_data` returns its bytes. -/
def call (buf : DirectionBuffer) : Call → DirectionBuffer × Option Bytes
  | .feed seq ack payload flags => (buf.feed seq ack payload flags, none)
  | .getData fill =>
      let (next, data) := buf.getData fill
      (next, some data)

def machine : Machine DirectionBuffer Call (Option Bytes) := ⟨call⟩

/-- Everything that `get_data` has returned, in order. -/
def delivered (results : List (Option Bytes)) : Bytes :=
  results.reduceOption.flatten

end DirectionBuffer

end DpktNg.Stream
