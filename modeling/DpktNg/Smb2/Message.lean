/-
SMB2 messages: the header of dpkt/smb2.py, and the command behind it.
-/

import DpktNg.Smb2.Commands

namespace DpktNg.Smb2

open Library

structure SMB2Header where
  proto : Bytes
  hdrLen : Nat
  creditCharge : Nat
  status : Nat
  cmd : Nat
  creditReq : Nat
  flagsVal : Nat
  nextCmd : Nat
  mid : Nat
  pid : Nat
  tid : Nat
  sid : Nat
  sig : Bytes
deriving DecidableEq, Repr

def SMB2Header.format : StructFormat SMB2Header where
  items :=
    [.str 4, .int 2, .int 2, .int 4, .int 2, .int 2, .int 4, .int 4, .int 8,
      .int 4, .int 4, .int 8, .str 16]
  values header :=
    (header.proto, header.hdrLen, header.creditCharge, header.status,
      header.cmd, header.creditReq, header.flagsVal, header.nextCmd, header.mid,
      header.pid, header.tid, header.sid, header.sig, ())
  ofValues := fun (proto, hdrLen, creditCharge, status, cmd, creditReq,
      flagsVal, nextCmd, mid, pid, tid, sid, sig, _) =>
    { proto, hdrLen, creditCharge, status, cmd, creditReq, flagsVal, nextCmd,
      mid, pid, tid, sid, sig }
  ofValues_values _ := rfl

/-- `SMB2(cmd=cmd)`: the defaults of all other fields. -/
def SMB2Header.default_ (cmd : Nat) : SMB2Header where
  proto := 0xfe :: asciiBytes "SMB"
  hdrLen := hdrSize
  creditCharge := 0
  status := 0
  cmd := cmd
  creditReq := 0
  flagsVal := 0
  nextCmd := 0
  mid := 0
  pid := 0
  tid := 0
  sid := 0
  sig := zeros 16

/-- What stands behind the header: a command, or bytes that are none. -/
inductive SMB2Data where
  | raw (data : Bytes)
  | plain (cls : HeaderClass) (values : StructValues cls.items) (data : Bytes)
  | treeConnect (command : SMB2TreeConnect)
  | create (command : SMB2Create)
  | read (command : SMB2Read)
  | write (command : SMB2Write)
  | lock (command : SMB2Lock)
  | ioctl (command : SMB2Ioctl)
  | queryDirectory (command : SMB2QueryDirectory)
  | queryInfo (command : SMB2QueryInfo)
  | setInfo (command : SMB2SetInfo)

structure SMB2 where
  header : SMB2Header
  data : SMB2Data

/-- A class: its name, the length of its header if it has one, and what it
makes of the bytes behind the header of the message. -/
structure CommandClass where
  name : String
  hdrLen : Option Nat
  unpack : Bytes → Except PyError SMB2Data

def CommandClass.parse (cls : CommandClass) : Bytes → Except PyError SMB2Data :=
  packetInit cls.name cls.hdrLen cls.unpack

def plainClass (cls : HeaderClass) : CommandClass where
  name := cls.name
  hdrLen := some cls.format.size
  unpack buf := do
    let (values, data) ← cls.format.unpackHdr .little buf
    .ok (.plain cls values data)

def treeConnectClass : CommandClass where
  name := "SMB2TreeConnect"
  hdrLen := some TreeConnectHeader.format.size
  unpack buf := do .ok (.treeConnect (← SMB2TreeConnect.unpack buf))

def createClass : CommandClass where
  name := "SMB2Create"
  hdrLen := some CreateHeader.format.size
  unpack buf := do .ok (.create (← SMB2Create.unpack buf))

def readClass : CommandClass where
  name := "SMB2Read"
  hdrLen := none
  unpack buf := do .ok (.read (← SMB2Read.unpack buf))

def writeClass : CommandClass where
  name := "SMB2Write"
  hdrLen := none
  unpack buf := do .ok (.write (← SMB2Write.unpack buf))

def lockClass : CommandClass where
  name := "SMB2Lock"
  hdrLen := some LockHeader.format.size
  unpack buf := do .ok (.lock (← SMB2Lock.unpack buf))

def ioctlClass : CommandClass where
  name := "SMB2Ioctl"
  hdrLen := some IoctlHeader.format.size
  unpack buf := do .ok (.ioctl (← SMB2Ioctl.unpack buf))

def queryDirectoryClass : CommandClass where
  name := "SMB2QueryDirectory"
  hdrLen := some QueryDirectoryHeader.format.size
  unpack buf := do .ok (.queryDirectory (← SMB2QueryDirectory.unpack buf))

def queryInfoClass : CommandClass where
  name := "SMB2QueryInfo"
  hdrLen := some InfoHeader.format.size
  unpack buf := do .ok (.queryInfo (← SMB2QueryInfo.unpack buf))

def setInfoClass : CommandClass where
  name := "SMB2SetInfo"
  hdrLen := some InfoHeader.format.size
  unpack buf := do .ok (.setInfo (← SMB2SetInfo.unpack buf))

/-- `SMB2._cmdsw`, which `_mod_init` fills. -/
def cmdsw : List (Nat × CommandClass) :=
  [(0x00, plainClass .negotiate), (0x01, plainClass .sessionSetup),
    (0x02, plainClass .logoff), (0x03, treeConnectClass),
    (0x04, plainClass .treeDisconnect), (0x05, createClass),
    (0x06, plainClass .close), (0x07, plainClass .flush), (0x08, readClass),
    (0x09, writeClass), (0x0a, lockClass), (0x0b, ioctlClass),
    (0x0c, plainClass .cancel), (0x0d, plainClass .echo),
    (0x0e, queryDirectoryClass), (0x0f, plainClass .changeNotify),
    (0x10, queryInfoClass), (0x11, setInfoClass),
    (0x12, plainClass .oplockBreak)]

/-- A command that its class does not take is left as bytes. -/
def SMB2.unpackData (cmd : Nat) (buf : Bytes) : Except PyError SMB2Data :=
  match cmdsw.lookup cmd with
  | none => .ok (.raw buf)
  | some cls =>
      match cls.parse buf with
      | .ok data => .ok data
      | .error problem =>
          if problem.IsUnpackError then .ok (.raw buf) else .error problem

def SMB2.unpack (buf : Bytes) : Except PyError SMB2 := do
  let (header, behind) ← SMB2Header.format.unpackHdr .little buf
  let data ← SMB2.unpackData header.cmd behind
  .ok { header, data }

def SMB2.parse : Bytes → Except PyError SMB2 :=
  packetInit "SMB2" (some SMB2Header.format.size) SMB2.unpack

def SMB2Data.bytes : SMB2Data → Except PyError Bytes
  | .raw data => .ok data
  | .plain cls values data => do
      .ok ((← cls.format.packHdr .little values) ++ data)
  | .treeConnect command =>
      TreeConnectHeader.format.packHdr .little command.header
  | .create command => CreateHeader.format.packHdr .little command.header
  | .read command => command.bytes
  | .write command => command.bytes
  | .lock command => command.bytes
  | .ioctl command => command.bytes
  | .queryDirectory command => command.bytes
  | .queryInfo command => command.bytes
  | .setInfo command => command.bytes

def SMB2.bytes (self : SMB2) : Except PyError Bytes := do
  let hdr ← SMB2Header.format.packHdr .little self.header
  let data ← self.data.bytes
  .ok (hdr ++ data)

theorem SMB2Header.default_fits {cmd : Nat} (small : cmd < 256 ^ 2) :
    SMB2Header.format.Fits (SMB2Header.default_ cmd) := by
  have zero (width : Nat) : 0 < 256 ^ width := Nat.pow_pos (by decide)
  have length : hdrSize < 256 ^ 2 := by decide
  exact ⟨rfl, length, zero 2, zero 4, small, zero 2, zero 4, zero 4, zero 8,
    zero 4, zero 4, zero 8, rfl, trivial⟩

/-- The class of the code reads what stands behind the header that was
packed. -/
theorem SMB2.parse_bytes {header : SMB2Header} {cls : CommandClass}
    (fits : SMB2Header.format.Fits header)
    (registered : cmdsw.lookup header.cmd = some cls) {behind : Bytes}
    {data : SMB2Data} (unpacked : cls.unpack behind = .ok data) :
    SMB2.parse (SMB2Header.format.bytes .little header ++ behind) =
      .ok { header, data } := by
  have parsed : cls.parse behind = .ok data := packetInit_eq_ok.mpr unpacked
  refine packetInit_eq_ok.mpr ?_
  unfold SMB2.unpack
  rw [StructFormat.unpackHdr_bytes fits, ok_bind]
  dsimp only
  unfold SMB2.unpackData
  rw [registered]
  dsimp only
  rw [parsed, ok_bind]

end DpktNg.Smb2
