/-
Remote procedure calls and their replies of dpkt/rpc.py.

Lists of packets: a marker says whether another packet follows.
`unpack_xdrlist` wants the marker in front of every packet, and `pack_xdrlist`
writes it between them.
-/

import DpktNg.Python.Struct
import DpktNg.Python.StructFormat

namespace DpktNg.Rpc

open Library

/-- The values of `RPC.dir`. -/
def call : Nat := 0

def reply : Nat := 1

/-- The values of `RPC.Reply.stat`. -/
def msgAccepted : Nat := 0

def msgDenied : Nat := 1

/-- The values of `RPC.Reply.Accept.stat` that have a branch of their own. -/
def success : Nat := 0

def progMismatch : Nat := 2

/-- The values of `RPC.Reply.Reject.stat`. -/
def rpcMismatch : Nat := 0

def authError : Nat := 1

structure Auth where
  flavor : Nat := 0
  data : Bytes := []
deriving DecidableEq, Repr

namespace Auth

def unpack (buf : Bytes) : Except PyError Auth := do
  let (hdr, data) ← takeHeader 4 buf
  let n ← unpackBe 4 (data.take 4)
  .ok { flavor := beNat hdr, data := cut data 4 (4 + n) }

def parse : Bytes → Except PyError Auth := packetInit "Auth" (some 4) unpack

def size (self : Auth) : Nat := 8 + self.data.length

def bytes (self : Auth) : Except PyError Bytes := do
  let hdr ← packHdr [(4, self.flavor)]
  let length ← packBe 4 self.data.length
  .ok (hdr ++ length ++ self.data)

end Auth

/-- A call without `cred` or `verf` is written with a blank one. -/
structure Call where
  rpcvers : Nat := 2
  prog : Nat := 0
  vers : Nat := 0
  proc : Nat := 0
  cred : Auth := {}
  verf : Auth := {}
  data : Bytes := []
deriving DecidableEq, Repr

namespace Call

def unpack (buf : Bytes) : Except PyError Call := do
  let (hdr, data) ← takeHeader 16 buf
  let cred ← Auth.parse data
  let verf ← Auth.parse (data.drop cred.size)
  .ok
    { rpcvers := beNat (cut hdr 0 4)
      prog := beNat (cut hdr 4 8)
      vers := beNat (cut hdr 8 12)
      proc := beNat (cut hdr 12 16)
      cred
      verf
      data := data.drop (cred.size + verf.size) }

def parse : Bytes → Except PyError Call := packetInit "Call" (some 16) unpack

def bytes (self : Call) : Except PyError Bytes := do
  let hdr ← packHdr
    [(4, self.rpcvers), (4, self.prog), (4, self.vers), (4, self.proc)]
  let cred ← self.cred.bytes
  let verf ← self.verf.bytes
  -- `Packet.__bytes__` is the header and the data
  .ok (hdr ++ self.data ++ cred ++ verf ++ self.data)

def size (self : Call) : Except PyError Nat := do
  .ok (← self.bytes).length

end Call

/-- The attributes `low` and `high` of a mismatch. -/
structure Mismatch where
  low : Nat
  high : Nat
deriving DecidableEq, Repr

def Mismatch.unpack (buf : Bytes) : Except PyError Mismatch :=
  if buf.length = 8 then
    .ok { low := beNat (cut buf 0 4), high := beNat (cut buf 4 8) }
  else .error .structError

/-- `getattr`, where `unpack` may not have set the attribute. -/
def getAttr {α : Type} : Option α → Except PyError α
  | none => .error .attributeError
  | some value => .ok value

@[simp] theorem getAttr_some {α : Type} (value : α) :
    getAttr (some value) = .ok value := rfl

structure Accept where
  verf : Auth
  stat : Nat
  mismatch : Option Mismatch := none
  data : Bytes := []
deriving DecidableEq, Repr

namespace Accept

def unpack (buf : Bytes) : Except PyError Accept := do
  let verf ← Auth.parse buf
  let buf := buf.drop verf.size
  let stat ← unpackBe 4 (buf.take 4)
  if stat = success then .ok { verf, stat, data := buf.drop 4 }
  else if stat = progMismatch then do
    let mismatch ← Mismatch.unpack (cut buf 4 12)
    .ok { verf, stat, mismatch := some mismatch, data := buf.drop 12 }
  else .ok { verf, stat }

def parse : Bytes → Except PyError Accept :=
  packetInit "Accept" (some 4) unpack

def size (self : Accept) : Nat :=
  let n := if self.stat = progMismatch then 8 else 0
  self.verf.size + 4 + n + self.data.length

def bytes (self : Accept) : Except PyError Bytes :=
  if self.stat = progMismatch then do
    let verf ← self.verf.bytes
    let mismatch ← getAttr self.mismatch
    let packed ← packFields
      [(4, self.stat), (4, mismatch.low), (4, mismatch.high)]
    .ok (verf ++ packed ++ self.data)
  else do
    let verf ← self.verf.bytes
    let hdr ← packHdr [(4, self.stat)]
    .ok (verf ++ (hdr ++ self.data))

end Accept

structure Reject where
  stat : Nat := 1
  mismatch : Option Mismatch := none
  why : Option Nat := none
  data : Bytes := []
deriving DecidableEq, Repr

namespace Reject

def unpack (buf : Bytes) : Except PyError Reject := do
  let (hdr, data) ← takeHeader 4 buf
  let stat := beNat hdr
  if stat = rpcMismatch then do
    let mismatch ← Mismatch.unpack (data.take 8)
    .ok { stat, mismatch := some mismatch, data := data.drop 8 }
  else if stat = authError then do
    let why ← unpackBe 4 (data.take 4)
    .ok { stat, why := some why, data := data.drop 4 }
  else .ok { stat, data }

def parse : Bytes → Except PyError Reject :=
  packetInit "Reject" (some 4) unpack

def size (self : Reject) : Nat :=
  let n :=
    if self.stat = rpcMismatch then 8
    else if self.stat = authError then 4
    else 0
  4 + n + self.data.length

def bytes (self : Reject) : Except PyError Bytes :=
  if self.stat = rpcMismatch then do
    let mismatch ← getAttr self.mismatch
    let packed ← packFields
      [(4, self.stat), (4, mismatch.low), (4, mismatch.high)]
    .ok (packed ++ self.data)
  else if self.stat = authError then do
    let why ← getAttr self.why
    let packed ← packFields [(4, self.stat), (4, why)]
    .ok (packed ++ self.data)
  else do
    let hdr ← packHdr [(4, self.stat)]
    .ok (hdr ++ self.data)

end Reject

inductive ReplyData where
  | accept (accept : Accept)
  | reject (reject : Reject)
  | raw (data : Bytes)
deriving DecidableEq, Repr

structure Reply where
  stat : Nat
  data : ReplyData
deriving DecidableEq, Repr

namespace Reply

def unpack (buf : Bytes) : Except PyError Reply := do
  let (hdr, data) ← takeHeader 4 buf
  let stat := beNat hdr
  if stat = msgAccepted then do
    .ok { stat, data := .accept (← Accept.parse data) }
  else if stat = msgDenied then do
    .ok { stat, data := .reject (← Reject.parse data) }
  else .ok { stat, data := .raw data }

def parse : Bytes → Except PyError Reply := packetInit "Reply" (some 4) unpack

def size (self : Reply) : Nat :=
  match self.data with
  | .accept accept => 4 + accept.size
  | .reject reject => 4 + reject.size
  | .raw data => 4 + data.length

def bytes (self : Reply) : Except PyError Bytes := do
  let hdr ← packHdr [(4, self.stat)]
  let data ←
    (match self.data with
    | .accept accept => accept.bytes
    | .reject reject => reject.bytes
    | .raw data => .ok data)
  .ok (hdr ++ data)

end Reply

inductive RPCData where
  | call (call : Call)
  | reply (reply : Reply)
  | raw (data : Bytes)
deriving DecidableEq, Repr

structure RPC where
  xid : Nat
  dir : Nat
  data : RPCData
deriving DecidableEq, Repr

namespace RPC

def unpack (buf : Bytes) : Except PyError RPC := do
  let (hdr, data) ← takeHeader 8 buf
  let xid := beNat (cut hdr 0 4)
  let dir := beNat (cut hdr 4 8)
  if dir = Rpc.call then do
    .ok { xid, dir, data := .call (← Call.parse data) }
  else if dir = Rpc.reply then do
    .ok { xid, dir, data := .reply (← Reply.parse data) }
  else .ok { xid, dir, data := .raw data }

def parse : Bytes → Except PyError RPC := packetInit "RPC" (some 8) unpack

def size (self : RPC) : Except PyError Nat :=
  match self.data with
  | .call call => do .ok (8 + (← call.size))
  | .reply reply => .ok (8 + reply.size)
  | .raw data => .ok (8 + data.length)

def bytes (self : RPC) : Except PyError Bytes := do
  let hdr ← packHdr [(4, self.xid), (4, self.dir)]
  let data ←
    (match self.data with
    | .call call => call.bytes
    | .reply reply => reply.bytes
    | .raw data => .ok data)
  .ok (hdr ++ data)

end RPC

/-- A packet class for such lists: what it does not read stays in `data`, and
`__bytes__` leaves that out. -/
structure XdrClass (α : Type) where
  /-- `cls(buf)` and its `data` -/
  parse : Bytes → Except PyError (α × Bytes)
  bytes : α → Bytes
  parse_bytes : ∀ packet data,
    parse (bytes packet ++ data) = .ok (packet, data)
  bytes_parse : ∀ {buf packet data},
    parse buf = .ok (packet, data) → buf = bytes packet ++ data

/-- Another packet follows. -/
def follows : Bytes := [0, 0, 0, 1]

def listEnd : Bytes := [0, 0, 0, 0]

variable {α : Type}

theorem XdrClass.data_length (cls : XdrClass α) {buf data : Bytes}
    {packet : α} (parsed : cls.parse buf = .ok (packet, data)) :
    data.length ≤ buf.length := by
  rw [cls.bytes_parse parsed, List.length_append]
  exact Nat.le_add_left _ _

def unpackXdrlist (cls : XdrClass α) (buf : Bytes) :
    Except PyError (List α) :=
  if _present : buf ≠ [] then
    if follows.isPrefixOf buf then
      match _parsed : cls.parse (buf.drop 4) with
      | .error problem => .error problem
      | .ok (packet, data) => do
          let packets ← unpackXdrlist cls data
          .ok (packet :: packets)
    else if listEnd.isPrefixOf buf then .ok []
    else .error (.unpackError "invalid XDR list".toList)
  else .ok []
termination_by buf.length
decreasing_by
  have shorter := cls.data_length _parsed
  have some_left := List.length_pos_iff.mpr _present
  rw [List.length_drop] at shorter
  omega

def packXdrlist (cls : XdrClass α) (packets : List α) : Bytes :=
  follows.intercalate (packets.map cls.bytes) ++ listEnd

variable {cls : XdrClass α}

theorem unpackXdrlist_listEnd (behind : Bytes) :
    unpackXdrlist cls (listEnd ++ behind) = .ok [] := by
  rw [unpackXdrlist, dif_pos (by simp [listEnd])]
  rfl

theorem unpackXdrlist_follows (behind : Bytes) :
    unpackXdrlist cls (follows ++ behind) = (do
      let (packet, data) ← cls.parse behind
      let packets ← unpackXdrlist cls data
      .ok (packet :: packets)) := by
  have front : follows.isPrefixOf (follows ++ behind) = true := by
    rw [List.isPrefixOf_iff_prefix]
    exact List.prefix_append _ _
  have cutOff : (follows ++ behind).drop 4 = behind := List.drop_left' rfl
  rw [unpackXdrlist, dif_pos (by simp [follows]), if_pos front]
  split
  · rename_i problem failed
    rw [cutOff] at failed
    rw [failed]
    rfl
  · rename_i packet data parsed
    rw [cutOff] at parsed
    rw [parsed]
    rfl

/-- A buffer as the parser wants it: a marker in front of every packet. -/
def marked (cls : XdrClass α) (packets : List α) : Bytes :=
  (packets.map fun packet => follows ++ cls.bytes packet).flatten

theorem marked_cons (packet : α) (packets : List α) :
    marked cls (packet :: packets) =
      follows ++ (cls.bytes packet ++ marked cls packets) := by
  unfold marked
  rw [List.map_cons, List.flatten_cons, List.append_assoc]

/-- What is read as a list stands in the buffer with its markers. -/
theorem unpackXdrlist_marked {buf : Bytes} {packets : List α}
    (unpacked : unpackXdrlist cls buf = .ok packets) :
    marked cls packets <+: buf := by
  induction packets generalizing buf with
  | nil => exact List.nil_prefix
  | cons packet packets ih =>
      rw [unpackXdrlist] at unpacked
      split at unpacked
      · split at unpacked
        · rename_i front
          obtain ⟨behind, rfl⟩ := List.isPrefixOf_iff_prefix.mp front
          rw [show (follows ++ behind).drop 4 = behind from
            List.drop_left' rfl] at unpacked
          split at unpacked
          · cases unpacked
          · rename_i first data parsed
            obtain ⟨others, unpackedRest, same⟩ := bind_eq_ok.mp unpacked
            cases same
            rw [cls.bytes_parse parsed, marked_cons,
              List.prefix_append_right_inj, List.prefix_append_right_inj]
            exact ih unpackedRest
        · split at unpacked
          · cases unpacked
          · cases unpacked
      · cases unpacked

theorem packXdrlist_cons (packet : α) (packets : List α) :
    packXdrlist cls (packet :: packets) =
      cls.bytes packet ++ marked cls packets ++ listEnd := by
  unfold packXdrlist
  congr 1
  induction packets generalizing packet with
  | nil =>
      change (List.intersperse follows [cls.bytes packet]).flatten = _
      simp [marked]
  | cons next packets ih =>
      rw [marked_cons, ← ih next, List.map_cons, List.map_cons,
        List.intercalate_cons_cons, List.append_assoc]

/-- With one more marker in front, the written list is read back. -/
theorem unpackXdrlist_follows_packXdrlist {packets : List α}
    (some_packets : packets ≠ []) :
    unpackXdrlist cls (follows ++ packXdrlist cls packets) = .ok packets := by
  obtain ⟨packet, packets, rfl⟩ := List.exists_cons_of_ne_nil some_packets
  rw [packXdrlist_cons, List.append_assoc, unpackXdrlist_follows,
    cls.parse_bytes, ok_bind]
  dsimp only
  clear some_packets
  induction packets generalizing packet with
  | nil =>
      rw [show marked cls [] = [] from rfl, List.nil_append,
        ← List.append_nil listEnd, unpackXdrlist_listEnd, ok_bind]
  | cons next packets ih =>
      rw [marked_cons, List.append_assoc, List.append_assoc,
        unpackXdrlist_follows, cls.parse_bytes, ok_bind]
      dsimp only
      rw [ih next, ok_bind]

/-- Only the empty list is read back. -/
theorem xdrlist_round_trip_iff (cls : XdrClass α) (packets : List α) :
    unpackXdrlist cls (packXdrlist cls packets) = .ok packets ↔
      packets = [] := by
  constructor
  · intro unpacked
    cases packets with
    | nil => rfl
    | cons packet packets =>
        -- both have the same bytes, but for the marker in front
        have ones := (unpackXdrlist_marked unpacked).sublist.count_le 1
        rw [packXdrlist_cons, marked_cons] at ones
        simp only [List.count_append] at ones
        have marker : follows.count 1 = 1 := rfl
        have none_behind : listEnd.count 1 = 0 := rfl
        omega
  · rintro rfl
    exact unpackXdrlist_listEnd []

def octets : XdrClass UInt8 where
  parse
    | [] => .error (.tooShort 0 1)
    | byte :: data => .ok (byte, data)
  bytes byte := [byte]
  parse_bytes _ _ := rfl
  bytes_parse {buf} _ _ parsed := by
    cases buf with
    | nil => cases parsed
    | cons byte data =>
        cases parsed
        rfl

/-- The list of one such packet is refused. -/
theorem octet_list_refused :
    unpackXdrlist octets (packXdrlist octets [7]) =
        .error (.unpackError "invalid XDR list".toList) ∧
      unpackXdrlist octets (packXdrlist octets [7]) ≠ .ok [7] := by
  have refused : unpackXdrlist octets (packXdrlist octets [7]) =
      .error (.unpackError "invalid XDR list".toList) := by
    rw [unpackXdrlist, dif_pos (by decide), if_neg (by decide),
      if_neg (by decide)]
  refine ⟨refused, ?_⟩
  rw [refused]
  intro impossible
  cases impossible

end DpktNg.Rpc
