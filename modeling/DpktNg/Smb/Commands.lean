/-
The commands of dpkt/smb.py.
-/

import DpktNg.Python.StructFormat

namespace DpktNg.Smb

open Library

/-- What every command has: parameters in words, and data in bytes. -/
structure CommandParts where
  wordCount : Nat
  params : Bytes
  byteCount : Nat
  rawData : Bytes
deriving DecidableEq, Repr

/-- `SMB1Command.unpack` -/
def CommandParts.unpack (buf : Bytes) : Except PyError CommandParts := do
  let wordCount ← byteAt buf 0
  let paramsEnd := 1 + wordCount * 2
  let byteCount ← ByteOrder.little.unpackInt 2
    (cut buf paramsEnd (paramsEnd + 2))
  .ok
    { wordCount
      params := cut buf 1 paramsEnd
      byteCount
      rawData := cut buf (paramsEnd + 2) (paramsEnd + 2 + byteCount) }

/-- Where the next command of a chain is; `rsv` is not set without it. -/
structure AndX where
  command : Nat
  rsv : Option Nat
  offset : Nat
deriving DecidableEq, Repr

/-- `SMB1Command.__init__` -/
def AndX.initial : AndX where
  command := 0xff
  rsv := none
  offset := 0

def paramByte (params : Bytes) (index : Nat) : Nat :=
  (params.getD index 0).toNat

/-- `struct.unpack` of an integer in parameters that are long enough. -/
def paramInt (params : Bytes) (start stop : Nat) : Nat :=
  ByteOrder.little.nat (cut params start stop)

/-- The lines that every AndX command begins with. -/
def AndX.read (params : Bytes) : AndX :=
  if params.length ≥ 4 then
    { command := paramByte params 0
      rsv := some (paramByte params 1)
      offset := paramInt params 2 4 }
  else AndX.initial

structure ReadAndX where
  fid : Nat
  offset : Nat
  maxCount : Nat
deriving DecidableEq, Repr

structure WriteAndX where
  fid : Nat
  offset : Nat
  timeout : Nat
  writeMode : Nat
  remaining : Nat
  dataLength : Nat
  dataOffset : Nat
deriving DecidableEq, Repr

structure Trans2 where
  totalParamCount : Nat
  totalDataCount : Nat
  maxParamCount : Nat
  maxDataCount : Nat
  maxSetupCount : Nat
  rsv1 : Nat
  flags : Nat
  timeout : Nat
  rsv2 : Nat
  paramCount : Nat
  paramOffset : Nat
  dataCount : Nat
  dataOffset : Nat
  rsv3 : Nat
  setup : Option Bytes
deriving DecidableEq, Repr

structure NTTrans where
  setupCount : Nat
  functionCode : Nat
deriving DecidableEq, Repr

/-- An attribute that is only set when the parameters are long enough is an
`Option`. -/
inductive CommandBody where
  | plain
  | negotiate (dialects : List Bytes)
  | treeConnectAndX (flags : Option Nat) (path service : Bytes)
  | ntCreateAndX (nameLength : Option Nat) (fileName : Bytes)
  | readAndX (fields : Option ReadAndX) (fileData : Bytes)
  | writeAndX (fields : Option WriteAndX) (fileData : Bytes)
  | trans2 (fields : Option Trans2) (subCmd : Option Nat) (paramData : Bytes)
  | ntTrans (fields : Option NTTrans)
deriving DecidableEq, Repr

/-- Up to the first zero byte, and behind it. -/
def splitZero (d : Bytes) : Bytes × Option Bytes :=
  (d.takeWhile (· != 0), (d.dropWhile (· != 0)).tail?)

theorem splitZero_length {d rest : Bytes}
    (found : (splitZero d).2 = some rest) : rest.length < d.length := by
  have shorter := (List.dropWhile_suffix (· != 0) (l := d)).length_le
  unfold splitZero at found
  cases behind : d.dropWhile (· != 0) with
  | nil =>
      rw [behind] at found
      cases found
  | cons byte others =>
      rw [behind] at found shorter
      rw [List.tail?_cons, Option.some.injEq] at found
      rw [List.length_cons, found] at shorter
      exact shorter

/-- The loop over the dialects that are left. -/
def dialectsOf (d : Bytes) : List Bytes :=
  if d = [] then []
  else
    match _found : (splitZero d).2 with
    | none => [d]
    | some rest => (splitZero d).1 :: dialectsOf rest
termination_by d.length
decreasing_by exact splitZero_length _found

def readNegotiate (parts : CommandParts) : CommandBody :=
  .negotiate (if parts.wordCount = 0 then dialectsOf parts.rawData else [])

def readTreeConnectAndX (parts : CommandParts) : CommandBody :=
  .treeConnectAndX
    (if parts.params.length ≥ 6 then some (paramInt parts.params 4 6) else none)
    (splitZero parts.rawData).1 ((splitZero parts.rawData).2.getD [])

def readNTCreateAndX (parts : CommandParts) : CommandBody :=
  if parts.params.length ≥ 28 then
    let nameLength := paramInt parts.params 20 22
    .ntCreateAndX (some nameLength)
      (if nameLength ≠ 0 ∧ parts.rawData.length ≥ nameLength + 1 then
        cut parts.rawData 1 (1 + nameLength)
      else [])
  else .ntCreateAndX none []

def readReadAndX (parts : CommandParts) : CommandBody :=
  .readAndX
    (if parts.params.length ≥ 24 then
      some
        { fid := paramInt parts.params 4 6
          offset := paramInt parts.params 6 10
          maxCount := paramInt parts.params 10 12 }
    else none)
    parts.rawData

def readWriteAndX (parts : CommandParts) : CommandBody :=
  .writeAndX
    (if parts.params.length ≥ 24 then
      some
        { fid := paramInt parts.params 4 6
          offset := paramInt parts.params 6 10
          timeout := paramInt parts.params 10 14
          writeMode := paramInt parts.params 14 16
          remaining := paramInt parts.params 16 18
          dataLength := paramInt parts.params 20 22
          dataOffset := paramInt parts.params 22 24 }
    else none)
    parts.rawData

def readTrans2 (parts : CommandParts) : CommandBody :=
  if parts.params.length ≥ 28 then
    let setupCount := paramByte parts.params 26
    let setupEnd := 28 + setupCount * 2
    let setup :=
      if setupEnd ≤ parts.params.length then
        some (cut parts.params 28 setupEnd)
      else none
    let subCmd :=
      match setup with
      | none => none
      | some words =>
          if setupCount ≥ 1 ∧ words.length ≥ 2 then some (paramInt words 0 2)
          else none
    let paramCount := paramInt parts.params 18 20
    let paramOffset := paramInt parts.params 20 22
    let paramStart := paramOffset - 32
    .trans2
      (some
        { totalParamCount := paramInt parts.params 0 2
          totalDataCount := paramInt parts.params 2 4
          maxParamCount := paramInt parts.params 4 6
          maxDataCount := paramInt parts.params 6 8
          maxSetupCount := paramByte parts.params 8
          rsv1 := paramByte parts.params 9
          flags := paramInt parts.params 10 12
          timeout := paramInt parts.params 12 16
          rsv2 := paramInt parts.params 16 18
          paramCount
          paramOffset
          dataCount := paramInt parts.params 22 24
          dataOffset := paramInt parts.params 24 26
          rsv3 := paramByte parts.params 27
          setup })
      subCmd
      (if paramCount ≠ 0 ∧ paramOffset ≥ 32 ∧
          paramStart < parts.rawData.length then
        cut parts.rawData paramStart (paramStart + paramCount)
      else [])
  else .trans2 none none []

def readNTTrans (parts : CommandParts) : CommandBody :=
  .ntTrans
    (if parts.params.length ≥ 38 then
      let setupCount := paramByte parts.params 32
      some
        { setupCount
          functionCode :=
            if setupCount ≥ 1 then paramInt parts.params 34 36 else 0 }
    else none)

inductive CommandClass where
  | negotiate
  | sessionSetupAndX
  | treeConnectAndX
  | ntCreateAndX
  | close
  | readAndX
  | writeAndX
  | open_
  | openAndX
  | logoffAndX
  | echo
  | treeDisconnect
  | trans2
  | trans
  | ntTrans
  | ntTransSecondary
deriving DecidableEq, Repr

structure Command where
  cls : CommandClass
  parts : CommandParts
  andx : AndX
  body : CommandBody
deriving DecidableEq, Repr

namespace CommandClass

def name : CommandClass → String
  | negotiate => "SMB1Negotiate"
  | sessionSetupAndX => "SMB1SessionSetupAndX"
  | treeConnectAndX => "SMB1TreeConnectAndX"
  | ntCreateAndX => "SMB1NTCreateAndX"
  | close => "SMB1Close"
  | readAndX => "SMB1ReadAndX"
  | writeAndX => "SMB1WriteAndX"
  | open_ => "SMB1Open"
  | openAndX => "SMB1OpenAndX"
  | logoffAndX => "SMB1LogoffAndX"
  | echo => "SMB1Echo"
  | treeDisconnect => "SMB1TreeDisconnect"
  | trans2 => "SMB1Trans2"
  | trans => "SMB1Trans"
  | ntTrans => "SMB1NTTrans"
  | ntTransSecondary => "SMB1NTTransSecondary"

/-- The classes that read where the next command is. -/
def IsAndX : CommandClass → Prop
  | sessionSetupAndX => True
  | treeConnectAndX => True
  | ntCreateAndX => True
  | readAndX => True
  | writeAndX => True
  | openAndX => True
  | logoffAndX => True
  | _ => False

instance : DecidablePred IsAndX := fun cls => by
  cases cls <;> unfold IsAndX <;> infer_instance

def readBody : CommandClass → CommandParts → CommandBody
  | negotiate => readNegotiate
  | treeConnectAndX => readTreeConnectAndX
  | ntCreateAndX => readNTCreateAndX
  | readAndX => readReadAndX
  | writeAndX => readWriteAndX
  | trans2 => readTrans2
  | ntTrans => readNTTrans
  | _ => fun _ => .plain

def unpack (cls : CommandClass) (buf : Bytes) : Except PyError Command := do
  let parts ← CommandParts.unpack buf
  .ok
    { cls
      parts
      andx := if cls.IsAndX then AndX.read parts.params else AndX.initial
      body := cls.readBody parts }

def parse (cls : CommandClass) : Bytes → Except PyError Command :=
  packetInit cls.name none cls.unpack

end CommandClass

/-- `SMB._cmdsw`, which `_mod_init` fills: there is no class for creating a
directory. -/
def cmdsw : List (Nat × CommandClass) :=
  [(0x04, .close), (0x25, .trans2), (0x2d, .openAndX), (0x2e, .readAndX),
    (0x2f, .writeAndX), (0x32, .trans), (0x70, .logoffAndX),
    (0x71, .treeDisconnect), (0x72, .negotiate), (0x73, .sessionSetupAndX),
    (0x74, .echo), (0x75, .treeConnectAndX), (0xa0, .ntTrans),
    (0xa1, .ntTransSecondary), (0xa2, .ntCreateAndX), (0x02, .open_)]

end DpktNg.Smb
