/-
Packets of dpkt/tftp.py.  Names, modes and options are strings between NULs,
and the options keep their order.
-/

import DpktNg.Library.Dict
import DpktNg.Python.ByteOrder

namespace DpktNg.Tftp

open Library

def opRrq : Nat := 1

def opWrq : Nat := 2

def opData : Nat := 3

def opAck : Nat := 4

def opErr : Nat := 5

def opOack : Nat := 6

/-- Most attributes are set for some opcodes only. -/
structure TFTP where
  opcode : Nat := opRrq
  strict : Bool := false
  options : Dict Bytes Bytes := .empty
  filename : Option Bytes := none
  mode : Option Bytes := none
  block : Option Nat := none
  errcode : Option Nat := none
  errmsg : Option Bytes := none
  data : Bytes := []
deriving DecidableEq

/-- The loop over the options of a request, which come in pairs. -/
def requestOptions (strict : Bool) (options : Dict Bytes Bytes) :
    List Bytes → Except PyError (Dict Bytes Bytes)
  | key :: val :: rest =>
      if key = [] then
        if strict then
          .error (.unpackError "empty option key in TFTP".toList)
        else requestOptions strict options rest
      else requestOptions strict (options.set key val) rest
  | _ => .ok options

/-- A last key without a value. -/
def orphanedKey (strict : Bool) (options : Dict Bytes Bytes)
    (parts : List Bytes) : Except PyError (Dict Bytes Bytes) :=
  let lastKey := parts.getLastD []
  if (parts.length > 2 ∧ (parts.length - 2) % 2 = 1) ∧ lastKey ≠ [] ∧
      options.contains lastKey = false then
    if strict then .error (.unpackError "missing option value in TFTP".toList)
    else .ok (options.set lastKey [])
  else .ok options

/-- The loop over the options of an acknowledgment. -/
def oackOptions (options : Dict Bytes Bytes) :
    List Bytes → Dict Bytes Bytes
  | key :: val :: rest =>
      if key = [] then oackOptions options rest
      else oackOptions (options.set key val) rest
  | _ => options

namespace TFTP

def unpack (self : TFTP) (buf : Bytes) : Except PyError TFTP := do
  let (hdr, data) ← takeHeader 2 buf
  let self := { self with opcode := beNat hdr, data }
  if self.opcode = opRrq ∨ self.opcode = opWrq then
    let parts := data.splitOn 0
    let options ← requestOptions self.strict .empty (parts.drop 2)
    let options ← orphanedKey self.strict options parts
    .ok
      { self with
        filename := some (parts.getD 0 [])
        mode := some (parts.getD 1 [])
        options
        data := [] }
  else if self.opcode = opOack then
    let parts := data.splitOn 0
    if parts.length > 1 then
      .ok { self with options := oackOptions .empty parts, data := [] }
    else .ok self
  else if self.opcode = opData ∨ self.opcode = opAck then
    let block ← unpackBe 2 (data.take 2)
    .ok { self with block := some block, data := data.drop 2 }
  else if self.opcode = opErr then
    let errcode ← unpackBe 2 (data.take 2)
    .ok
      { self with
        errcode := some errcode
        errmsg := some (((data.drop 2).splitOn 0).headD [])
        data := [] }
  else .ok self

def parse (buf : Bytes) : Except PyError TFTP :=
  packetInit "TFTP" (some 2) (({} : TFTP).unpack) buf

end TFTP

/-- Keys and values, one behind the other. -/
def optionParts (options : Dict Bytes Bytes) : List Bytes :=
  options.entries.flatMap fun option => [option.1, option.2]

/-- `b'\x00'.join(parts) + b'\x00'` -/
def joinParts (parts : List Bytes) : Bytes := [0].intercalate parts ++ [0]

namespace TFTP

def fields (self : TFTP) : Except PyError Bytes :=
  if self.opcode = opRrq ∨ self.opcode = opWrq then
    match self.filename, self.mode with
    | some filename, some mode =>
        .ok (joinParts (filename :: mode :: optionParts self.options))
    | _, _ => .error .attributeError
  else if self.opcode = opOack then
    if self.options.entries ≠ [] then
      .ok (joinParts (optionParts self.options))
    else .ok []
  else if self.opcode = opData ∨ self.opcode = opAck then
    match self.block with
    | some block => packBe 2 block
    | none => .error .attributeError
  else if self.opcode = opErr then
    match self.errcode, self.errmsg with
    | some errcode, some errmsg => do
        let code ← packBe 2 errcode
        .ok (code ++ (errmsg ++ [0]))
    | _, _ => .error .attributeError
  else .ok []

def bytes (self : TFTP) : Except PyError Bytes := do
  let fields ← self.fields
  let hdr ← packHdr [(2, self.opcode)]
  .ok (hdr ++ fields ++ self.data)

end TFTP

/-- The parts are found again, and nothing behind the last of them. -/
theorem splitOn_joinParts {parts : List Bytes}
    (free : ∀ part ∈ parts, 0 ∉ part) (some_parts : parts ≠ []) :
    (joinParts parts).splitOn 0 = parts ++ [[]] := by
  unfold joinParts
  rw [intercalate_append [0] some_parts, splitOn_terminated free]

/-- Options that can be sent: keys with at least one byte, and no NUL in keys
or values. -/
def Sendable (options : Dict Bytes Bytes) : Prop :=
  ∀ option ∈ options.entries, option.1 ≠ [] ∧ 0 ∉ option.1 ∧ 0 ∉ option.2

theorem Sendable.parts {options : Dict Bytes Bytes}
    (sendable : Sendable options) : ∀ part ∈ optionParts options, 0 ∉ part := by
  intro part member
  obtain ⟨option, isOption, here⟩ := List.mem_flatMap.mp member
  obtain ⟨_key, keyFree, valFree⟩ := sendable option isOption
  rcases List.mem_cons.mp here with same | here
  · rw [same]
    exact keyFree
  · rw [List.mem_singleton.mp here]
    exact valFree

theorem requestOptions_parts (strict : Bool) {read : Dict Bytes Bytes}
    {entries : List (Bytes × Bytes)} (keys : ∀ entry ∈ entries, entry.1 ≠ [])
    (distinct : (entries.map Prod.fst).Nodup)
    (absent : ∀ entry ∈ entries, read.get? entry.1 = none) :
    ∃ options, requestOptions strict read
        (entries.flatMap (fun entry => [entry.1, entry.2]) ++ [[]]) =
          .ok options ∧
      oackOptions read
        (entries.flatMap (fun entry => [entry.1, entry.2]) ++ [[]]) =
          options ∧
      options.entries = read.entries ++ entries := by
  induction entries generalizing read with
  | nil => exact ⟨read, rfl, rfl, (List.append_nil _).symm⟩
  | cons entry rest ih =>
      rw [List.forall_mem_cons] at keys absent
      rw [List.map_cons, List.nodup_cons] at distinct
      obtain ⟨options, request, oack, entries⟩ :=
        ih keys.2 distinct.2
          (Dict.get?_set_absent distinct.1 absent.2 entry.2)
      refine ⟨options, ?_, ?_, ?_⟩
      · rw [List.flatMap_cons, List.append_assoc]
        change (if entry.1 = [] then _ else _) = _
        rw [if_neg keys.1]
        exact request
      · rw [List.flatMap_cons, List.append_assoc]
        change (if entry.1 = [] then _ else _) = _
        rw [if_neg keys.1]
        exact oack
      · rw [entries, Dict.entries_set_of_absent absent.1, List.append_assoc]
        rfl

theorem Sendable.read {options : Dict Bytes Bytes}
    (sendable : Sendable options) (strict : Bool) :
    requestOptions strict .empty (optionParts options ++ [[]]) =
        .ok options ∧
      oackOptions .empty (optionParts options ++ [[]]) = options := by
  obtain ⟨found, request, oack, entries⟩ :=
    @requestOptions_parts strict .empty _
      (fun option member => (sendable option member).1) options.distinct
      (fun option _ => rfl)
  have same : found = options :=
    Dict.eq_of_entries (entries.trans (List.nil_append _))
  rw [same] at request oack
  exact ⟨request, oack⟩

/-- The empty string behind the last NUL is no key. -/
theorem orphanedKey_terminated (strict : Bool) (options : Dict Bytes Bytes)
    (parts : List Bytes) :
    orphanedKey strict options (parts ++ [[]]) = .ok options := by
  unfold orphanedKey
  rw [List.getLastD_concat]
  exact if_neg fun orphaned => orphaned.2.1 rfl

/-- Packets with the attributes of their opcode, and no others. -/
inductive TFTP.Wellformed : TFTP → Prop
  | request {opcode : Nat} {strict : Bool} {options : Dict Bytes Bytes}
      {filename mode : Bytes} (isRequest : opcode = opRrq ∨ opcode = opWrq)
      (sendable : Sendable options) (filenameFree : 0 ∉ filename)
      (modeFree : 0 ∉ mode) :
      Wellformed
        { opcode, strict, options, filename := some filename,
          mode := some mode }
  | block {opcode : Nat} {strict : Bool} {block : Nat} {data : Bytes}
      (isBlock : opcode = opData ∨ opcode = opAck) (fits : block < 256 ^ 2) :
      Wellformed { opcode, strict, block := some block, data }
  | err {strict : Bool} {errcode : Nat} {errmsg : Bytes}
      (fits : errcode < 256 ^ 2) (free : 0 ∉ errmsg) :
      Wellformed
        { opcode := opErr, strict, errcode := some errcode,
          errmsg := some errmsg }
  | oack {strict : Bool} {options : Dict Bytes Bytes}
      (sendable : Sendable options) :
      Wellformed { opcode := opOack, strict, options }

theorem bytes_of_fields {self : TFTP} (fields : Bytes)
    (fits : self.opcode < 256 ^ 2) (isFields : self.fields = .ok fields) :
    self.bytes =
      .ok (beBytes 2 self.opcode ++ (fields ++ self.data)) := by
  unfold TFTP.bytes
  rw [isFields, ok_bind,
    packHdr_ok (fieldsFit_cons.mpr ⟨fits, fieldsFit_nil⟩), ok_bind]
  simp

theorem takeHeader_opcode (opcode : Nat) (behind : Bytes) :
    takeHeader 2 (beBytes 2 opcode ++ behind) =
      .ok (beBytes 2 opcode, behind) :=
  takeHeader_append 2 (beBytes_length 2 opcode)

theorem parse_request {opcode : Nat} {options : Dict Bytes Bytes}
    {filename mode : Bytes}
    (isRequest : opcode = opRrq ∨ opcode = opWrq)
    (sendable : Sendable options) (filenameFree : 0 ∉ filename)
    (modeFree : 0 ∉ mode) :
    ({} : TFTP).unpack (beBytes 2 opcode ++
        joinParts (filename :: mode :: optionParts options)) =
      .ok
        { opcode, options, filename := some filename, mode := some mode } := by
  have fits : opcode < 256 ^ 2 := by
    unfold opRrq opWrq at isRequest
    omega
  have free : ∀ part ∈ filename :: mode :: optionParts options, 0 ∉ part := by
    rw [List.forall_mem_cons, List.forall_mem_cons]
    exact ⟨filenameFree, modeFree, sendable.parts⟩
  have parts := splitOn_joinParts free (List.cons_ne_nil _ _)
  unfold TFTP.unpack
  rw [takeHeader_opcode, ok_bind]
  dsimp only
  rw [beNat_beBytes fits, if_pos isRequest, parts]
  change (requestOptions false .empty (optionParts options ++ [[]]) >>= _) = _
  rw [(sendable.read false).1, ok_bind]
  change (orphanedKey false options
    ((filename :: mode :: optionParts options) ++ [[]]) >>= _) = _
  rw [orphanedKey_terminated, ok_bind]
  rfl

theorem block_opcode {opcode : Nat}
    (isBlock : opcode = opData ∨ opcode = opAck) :
    opcode < 256 ^ 2 ∧ ¬ (opcode = opRrq ∨ opcode = opWrq) ∧
      opcode ≠ opOack := by
  unfold opData opAck at isBlock
  unfold opRrq opWrq opOack
  omega

theorem parse_block {opcode block : Nat} {data : Bytes}
    (isBlock : opcode = opData ∨ opcode = opAck) (fits : block < 256 ^ 2) :
    ({} : TFTP).unpack (beBytes 2 opcode ++ (beBytes 2 block ++ data)) =
      .ok { opcode, block := some block, data } := by
  obtain ⟨small, notRequest, notOack⟩ := block_opcode isBlock
  have length : (beBytes 2 block).length = 2 := beBytes_length 2 block
  unfold TFTP.unpack
  rw [takeHeader_opcode, ok_bind]
  dsimp only
  rw [beNat_beBytes small, if_neg notRequest, if_neg notOack, if_pos isBlock,
    List.take_left' length, List.drop_left' length, unpackBe_beBytes fits,
    ok_bind]

theorem parse_err {errcode : Nat} {errmsg : Bytes}
    (fits : errcode < 256 ^ 2) (free : 0 ∉ errmsg) :
    ({} : TFTP).unpack (beBytes 2 opErr ++
        (beBytes 2 errcode ++ (errmsg ++ [0]))) =
      .ok
        { opcode := opErr, errcode := some errcode,
          errmsg := some errmsg } := by
  have length : (beBytes 2 errcode).length = 2 := beBytes_length 2 errcode
  have parts : (errmsg ++ [0]).splitOn 0 = [errmsg] ++ [[]] := by
    rw [← splitOn_joinParts (List.forall_mem_singleton.mpr free)
      (List.cons_ne_nil _ _)]
    unfold joinParts
    rw [List.intercalate_singleton]
  unfold TFTP.unpack
  rw [takeHeader_opcode, ok_bind]
  dsimp only
  rw [beNat_beBytes (by decide), if_neg (by decide), if_neg (by decide),
    if_neg (by decide), if_pos rfl, List.take_left' length,
    List.drop_left' length, unpackBe_beBytes fits, ok_bind, parts]
  rfl

theorem parse_oack {options : Dict Bytes Bytes} (sendable : Sendable options)
    (some_options : options.entries ≠ []) :
    ({} : TFTP).unpack (beBytes 2 opOack ++
        joinParts (optionParts options)) =
      .ok { opcode := opOack, options } := by
  have some_parts : optionParts options ≠ [] := by
    unfold optionParts
    obtain ⟨option, rest, same⟩ := List.exists_cons_of_ne_nil some_options
    rw [same]
    exact List.cons_ne_nil _ _
  have parts := splitOn_joinParts sendable.parts some_parts
  have several : (optionParts options ++ [[]]).length > 1 := by
    have positive := List.length_pos_iff.mpr some_parts
    rw [List.length_append, List.length_singleton]
    omega
  unfold TFTP.unpack
  rw [takeHeader_opcode, ok_bind]
  dsimp only
  rw [beNat_beBytes (by decide), if_neg (by decide), if_pos rfl, parts,
    if_pos several, (sendable.read false).2]

theorem parse_oack_empty :
    ({} : TFTP).unpack (beBytes 2 opOack) = .ok { opcode := opOack } := by
  decide +kernel

/-- A packet is read back from its bytes. -/
theorem tftp_round_trip {self : TFTP} (wellformed : self.Wellformed) :
    ∃ out, self.bytes = .ok out ∧
      TFTP.parse out = .ok { self with strict := false } := by
  cases wellformed with
  | @request opcode strict options filename mode isRequest sendable
      filenameFree modeFree =>
      refine ⟨_, bytes_of_fields _ ?_ (if_pos isRequest), ?_⟩
      · unfold opRrq opWrq at isRequest
        change opcode < 256 ^ 2
        omega
      · rw [List.append_nil]
        exact packetInit_eq_ok.mpr
          (parse_request isRequest sendable filenameFree modeFree)
  | @block opcode strict block data isBlock fits =>
      obtain ⟨small, notRequest, notOack⟩ := block_opcode isBlock
      refine ⟨_, bytes_of_fields (beBytes 2 block) small ?_,
        packetInit_eq_ok.mpr (parse_block isBlock fits)⟩
      unfold TFTP.fields
      rw [if_neg notRequest, if_neg notOack, if_pos isBlock]
      exact packBe_ok fits
  | @err strict errcode errmsg fits free =>
      refine ⟨_, bytes_of_fields (beBytes 2 errcode ++ (errmsg ++ [0]))
        (by change opErr < 256 ^ 2; decide) ?_, ?_⟩
      · change (packBe 2 errcode >>= _) = _
        rw [packBe_ok fits, ok_bind]
      · rw [List.append_nil]
        exact packetInit_eq_ok.mpr (parse_err fits free)
  | @oack strict options sendable =>
      by_cases some_options : options.entries ≠ []
      · refine ⟨_, bytes_of_fields (joinParts (optionParts options))
          (by change opOack < 256 ^ 2; decide) (if_pos some_options), ?_⟩
        rw [List.append_nil]
        exact packetInit_eq_ok.mpr (parse_oack sendable some_options)
      · refine ⟨_, bytes_of_fields [] (by change opOack < 256 ^ 2; decide)
          (if_neg some_options), ?_⟩
        have none_left : options = .empty :=
          Dict.eq_of_entries (not_not.mp some_options)
        rw [List.append_nil, List.append_nil, none_left]
        exact packetInit_eq_ok.mpr parse_oack_empty

def upload : TFTP :=
  { opcode := opWrq
    filename := some (asciiBytes "upload.bin")
    mode := some (asciiBytes "octet")
    options := (Dict.empty.set (asciiBytes "blksize") (asciiBytes "4096")).set
      (asciiBytes "timeout") [] }

theorem upload_sendable : Sendable upload.options := by
  unfold Sendable
  decide +kernel

theorem upload_read_back :
    ∃ out, upload.bytes = .ok out ∧ TFTP.parse out = .ok upload :=
  tftp_round_trip (TFTP.Wellformed.request (Or.inr rfl) upload_sendable
    (by decide) (by decide))

end DpktNg.Tftp
