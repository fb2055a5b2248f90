/-
The extension headers of IPv6, dpkt/ip6.py: how each class reads itself from
a buffer, how it is written, and the loop that walks a chain of them.
-/

import DpktNg.Python.Struct

namespace DpktNg.Inet

open Library

def ipProtoHopopts : Nat := 0
def ipProtoRouting : Nat := 43
def ipProtoFragment : Nat := 44
def ipProtoEsp : Nat := 50
def ipProtoAh : Nat := 51
def ipProtoDstopts : Nat := 60

def extHdrs : List Nat :=
  [ipProtoHopopts, ipProtoRouting, ipProtoFragment, ipProtoAh, ipProtoEsp,
    ipProtoDstopts]

structure Ip6Option where
  type : Nat
  optLength : Nat
  data : Bytes
deriving DecidableEq, Repr

/-- The hop-by-hop and the destination options are two classes with the same
body. -/
inductive ExtHdr where
  | opts (nxt len : Nat) (options : List Ip6Option) (data : Bytes)
  | routing (nxt len type segsLeft rsvdSlBits : Nat) (addresses : List Bytes)
      (data : Bytes)
  | fragment (nxt resv fragOffResvM id : Nat)
  | ah (nxt len resv spi seq : Nat) (authData data : Bytes)
  | esp (spi seq : Nat) (data : Bytes)
deriving DecidableEq, Repr

namespace ExtHdr

/-- `getattr(ext, 'nxt', None)` -/
def nxt? : ExtHdr → Option Nat
  | .opts nxt .. => some nxt
  | .routing nxt .. => some nxt
  | .fragment nxt .. => some nxt
  | .ah nxt .. => some nxt
  | .esp .. => none

/-- The attribute `frag_off`, thirteen bits of a field that only the fragment
header has. -/
def fragOff? : ExtHdr → Option Nat
  | .fragment _ _ fragOffResvM _ => some (fragOffResvM / 8)
  | _ => none

/-- The attribute `length`, how far the walk moves on. -/
def length : ExtHdr → Nat
  | .opts _ len .. => (len + 1) * 8
  | .routing _ len .. => len * 8 + 8
  | .fragment .. => 8
  | .ah _ len .. => (len + 2) * 4
  | .esp _ _ data => 8 + data.length

theorem length_pos (ext : ExtHdr) : 0 < ext.length := by
  cases ext <;> simp only [length] <;> omega

def fields : ExtHdr → List (Nat × Nat)
  | .opts nxt len _ _ => [(1, nxt), (1, len)]
  | .routing nxt len type segsLeft rsvdSlBits _ _ =>
      [(1, nxt), (1, len), (1, type), (1, segsLeft), (4, rsvdSlBits)]
  | .fragment nxt resv fragOffResvM id =>
      [(1, nxt), (1, resv), (2, fragOffResvM), (4, id)]
  | .ah nxt len resv spi seq _ _ =>
      [(1, nxt), (1, len), (2, resv), (4, spi), (4, seq)]
  | .esp spi seq _ => [(4, spi), (4, seq)]

def data : ExtHdr → Bytes
  | .opts _ _ _ data => data
  | .routing _ _ _ _ _ _ data => data
  | .fragment .. => []
  | .ah _ _ _ _ _ _ data => data
  | .esp _ _ data => data

def bytes (self : ExtHdr) : Except PyError Bytes := do
  let header ← packHdr self.fields
  .ok (header ++ self.data)

end ExtHdr

/-- The loop over the options, where every `IndexError` becomes `NeedData`. -/
def unpackOptions (data : Bytes) (stop index : Nat) :
    Except PyError (List Ip6Option) :=
  if index < stop then
    match data[index]? with
    | none => .error (.needData [])
    | some optType =>
        if optType = 0 then unpackOptions data stop (index + 1)
        else
          match data[index + 1]? with
          | none => .error (.needData [])
          | some optLength =>
              if optType = 1 then
                unpackOptions data stop (index + (optLength.toNat + 2))
              else do
                let rest ←
                  unpackOptions data stop (index + (optLength.toNat + 2))
                .ok ({ type := optType.toNat
                       optLength := optLength.toNat
                       data := cut data (index + 2)
                         (index + 2 + optLength.toNat) } :: rest)
  else .ok []
termination_by stop - index

def unpackOptsHeader (buf : Bytes) : Except PyError ExtHdr := do
  let (header, data) ← takeHeader 2 buf
  let [nxt, len] ← unpackFields [1, 1] header | .error .structError
  let length := (len + 1) * 8
  let options ← unpackOptions data (length - 2) 0
  .ok (.opts nxt len options (cut buf 2 length))

def unpackRoutingHeader (buf : Bytes) : Except PyError ExtHdr := do
  let (header, _) ← takeHeader 8 buf
  let [nxt, len, type, segsLeft, rsvdSlBits] ←
      unpackFields [1, 1, 1, 1, 4] header
    | .error .structError
  let numAddresses := len / 2
  let buf := cut buf 8 (8 + numAddresses * 16)
  let addresses := (List.range numAddresses).map fun i =>
    cut buf (i * 16) (i * 16 + 16)
  .ok (.routing nxt len type segsLeft rsvdSlBits addresses buf)

def unpackFragmentHeader (buf : Bytes) : Except PyError ExtHdr := do
  let (header, _) ← takeHeader 8 buf
  let [nxt, resv, fragOffResvM, id] ← unpackFields [1, 1, 2, 4] header
    | .error .structError
  .ok (.fragment nxt resv fragOffResvM id)

def unpackAhHeader (buf : Bytes) : Except PyError ExtHdr := do
  let (header, data) ← takeHeader 12 buf
  let [nxt, len, resv, spi, seq] ← unpackFields [1, 1, 2, 4, 4] header
    | .error .structError
  let authData := cutTo data (((len : Int) - 1) * 4)
  .ok (.ah nxt len resv spi seq authData data)

def unpackEspHeader (buf : Bytes) : Except PyError ExtHdr := do
  let (header, data) ← takeHeader 8 buf
  let [spi, seq] ← unpackFields [4, 4] header | .error .structError
  .ok (.esp spi seq data)

/-- `EXT_HDRS_CLS[proto](buf)`, for a protocol of `EXT_HDRS`. -/
def parseExtHdr (proto : Nat) : Bytes → Except PyError ExtHdr :=
  if proto = ipProtoHopopts then
    packetInit "IP6HopOptsHeader" (some 2) unpackOptsHeader
  else if proto = ipProtoRouting then
    packetInit "IP6RoutingHeader" (some 8) unpackRoutingHeader
  else if proto = ipProtoFragment then
    packetInit "IP6FragmentHeader" (some 8) unpackFragmentHeader
  else if proto = ipProtoEsp then
    packetInit "IP6ESPHeader" (some 8) unpackEspHeader
  else if proto = ipProtoAh then
    packetInit "IP6AHHeader" (some 12) unpackAhHeader
  else packetInit "IP6DstOptsHeader" (some 2) unpackOptsHeader

theorem unpackOptions_raisesOnly (data : Bytes) (stop index : Nat) :
    RaisesOnly PyError.IsUnpackError (unpackOptions data stop index) := by
  fun_induction unpackOptions data stop index with
  | case1 index inside missing => exact raisesOnly_error.mpr trivial
  | case2 index inside found ih => exact ih
  | case3 index inside optType found notPad missing =>
      exact raisesOnly_error.mpr trivial
  | case4 index inside optLength foundLength found notPad ih => exact ih
  | case5 index inside optType found notPad optLength foundLength notPadN ih =>
      exact ih.bind fun rest _ => raisesOnly_ok _
  | case6 index outside => exact raisesOnly_ok _

namespace ExtHdr

/-- The bytes that writing the header again takes from the buffer it was read
from.  The code keeps too little of a routing header with an odd length, and
it keeps everything behind an authentication header. -/
def kept (buf : Bytes) : ExtHdr → Bytes
  | .opts _ len _ _ => buf.take ((len + 1) * 8)
  | .routing _ len .. => buf.take (8 + len / 2 * 16)
  | .fragment .. => buf.take 8
  | .ah .. => buf
  | .esp .. => buf

/-- What is known of a header that was read from a buffer. -/
structure ReadFrom (buf : Bytes) (ext : ExtHdr) : Prop where
  nonempty : 0 < buf.length
  rewritten : ext.bytes = .ok (ext.kept buf)

end ExtHdr

theorem ExtHdr.readFrom_of_fields {ext : ExtHdr} {buf : Bytes}
    (widths : List Nat) (enough : widths.sum ≤ buf.length)
    (positive : 0 < widths.sum)
    (fields : ext.fields =
      widths.zip (fieldValues widths (buf.take widths.sum)))
    (kept : buf.take widths.sum ++ ext.data = ext.kept buf) :
    ext.ReadFrom buf where
  nonempty := by omega
  rewritten := by
    unfold ExtHdr.bytes
    rw [fields, packHdr_fieldValues enough, ok_bind, kept]

section Classes

variable (buf : Bytes)

/-- A class fails in allowed ways, and what it reads it can write again. -/
def ReadsHeader (result : Except PyError ExtHdr) : Prop :=
  RaisesOnly HeaderError result ∧
    ∀ ext, result = .ok ext → ext.ReadFrom buf

theorem readsHeader_short : ReadsHeader buf (.error .structError) :=
  ⟨raisesOnly_error.mpr (Or.inl rfl), fun _ impossible => by cases impossible⟩

theorem readsHeader_ok {ext : ExtHdr} (from_buf : ext.ReadFrom buf) :
    ReadsHeader buf (.ok ext) := by
  refine ⟨raisesOnly_ok _, ?_⟩
  intro other same
  cases same
  exact from_buf

theorem unpackOptsHeader_reads : ReadsHeader buf (unpackOptsHeader buf) := by
  have spelled : unpackOptsHeader buf = _ := @header_bind _ [1, 1] buf _
  rw [spelled]
  split
  · exact readsHeader_short buf
  · rename_i enough
    refine ⟨?_, ?_⟩
    · apply RaisesOnly.bind
      · exact (unpackOptions_raisesOnly _ _ _).mono fun _ => Or.inr
      · exact fun _ _ => raisesOnly_ok _
    · intro ext read
      obtain ⟨options, _readOptions, done⟩ := bind_eq_ok.mp read
      rw [Except.ok.injEq] at done
      rw [← done]
      apply ExtHdr.readFrom_of_fields [1, 1] (by omega) (by decide) rfl
      exact take_append_cut (by change 2 ≤ _; omega)

theorem unpackRoutingHeader_reads :
    ReadsHeader buf (unpackRoutingHeader buf) := by
  have spelled : unpackRoutingHeader buf = _ :=
    @header_bind _ [1, 1, 1, 1, 4] buf _
  rw [spelled]
  split
  · exact readsHeader_short buf
  · rename_i enough
    apply readsHeader_ok
    apply ExtHdr.readFrom_of_fields [1, 1, 1, 1, 4] (by omega) (by decide) rfl
    exact take_append_cut (by change 8 ≤ _; omega)

theorem unpackFragmentHeader_reads :
    ReadsHeader buf (unpackFragmentHeader buf) := by
  have spelled : unpackFragmentHeader buf = _ :=
    @header_bind _ [1, 1, 2, 4] buf _
  rw [spelled]
  split
  · exact readsHeader_short buf
  · rename_i enough
    apply readsHeader_ok
    apply ExtHdr.readFrom_of_fields [1, 1, 2, 4] (by omega) (by decide) rfl
    exact List.append_nil _

theorem unpackAhHeader_reads : ReadsHeader buf (unpackAhHeader buf) := by
  have spelled : unpackAhHeader buf = _ :=
    @header_bind _ [1, 1, 2, 4, 4] buf _
  rw [spelled]
  split
  · exact readsHeader_short buf
  · rename_i enough
    apply readsHeader_ok
    apply ExtHdr.readFrom_of_fields [1, 1, 2, 4, 4] (by omega) (by decide) rfl
    exact List.take_append_drop _ buf

theorem unpackEspHeader_reads : ReadsHeader buf (unpackEspHeader buf) := by
  have spelled : unpackEspHeader buf = _ := @header_bind _ [4, 4] buf _
  rw [spelled]
  split
  · exact readsHeader_short buf
  · rename_i enough
    apply readsHeader_ok
    apply ExtHdr.readFrom_of_fields [4, 4] (by omega) (by decide) rfl
    exact List.take_append_drop _ buf

end Classes

theorem parseExtHdr_raisesOnly (proto : Nat) (buf : Bytes) :
    RaisesOnly PyError.IsUnpackError (parseExtHdr proto buf) := by
  unfold parseExtHdr
  split
  · exact packetInit_raisesOnly (unpackOptsHeader_reads buf).1
  · split
    · exact packetInit_raisesOnly (unpackRoutingHeader_reads buf).1
    · split
      · exact packetInit_raisesOnly (unpackFragmentHeader_reads buf).1
      · split
        · exact packetInit_raisesOnly (unpackEspHeader_reads buf).1
        · split
          · exact packetInit_raisesOnly (unpackAhHeader_reads buf).1
          · exact packetInit_raisesOnly (unpackOptsHeader_reads buf).1

/-- Whatever header was read comes from a buffer that is not empty, and writing
it again yields the part of the buffer that it kept. -/
theorem parseExtHdr_readFrom {proto : Nat} {buf : Bytes} {ext : ExtHdr}
    (parsed : parseExtHdr proto buf = .ok ext) : ext.ReadFrom buf := by
  unfold parseExtHdr at parsed
  split at parsed
  · exact (unpackOptsHeader_reads buf).2 ext (packetInit_eq_ok.mp parsed)
  · split at parsed
    · exact (unpackRoutingHeader_reads buf).2 ext (packetInit_eq_ok.mp parsed)
    · split at parsed
      · exact (unpackFragmentHeader_reads buf).2 ext
          (packetInit_eq_ok.mp parsed)
      · split at parsed
        · exact (unpackEspHeader_reads buf).2 ext (packetInit_eq_ok.mp parsed)
        · split at parsed
          · exact (unpackAhHeader_reads buf).2 ext (packetInit_eq_ok.mp parsed)
          · exact (unpackOptsHeader_reads buf).2 ext
              (packetInit_eq_ok.mp parsed)

/-- What the loop over the extension headers leaves: the headers with their
protocol numbers, the protocol of the payload, and the payload. -/
structure Walk where
  exts : List (Nat × ExtHdr)
  final : Option Nat
  payload : Bytes
deriving DecidableEq, Repr

def walkExtHdrs (nxt : Option Nat) (buf : Bytes) : Except PyError Walk :=
  match nxt with
  | none => .ok { exts := [], final := none, payload := buf }
  | some proto =>
      if proto ∈ extHdrs then
        match _parsed : parseExtHdr proto buf with
        | .error problem => .error problem
        | .ok ext =>
            match walkExtHdrs ext.nxt? (buf.drop ext.length) with
            | .error problem => .error problem
            | .ok walk =>
                .ok { walk with exts := (proto, ext) :: walk.exts }
      else .ok { exts := [], final := some proto, payload := buf }
termination_by buf.length
decreasing_by
  have nonempty := (parseExtHdr_readFrom _parsed).nonempty
  have positive := ext.length_pos
  rw [List.length_drop]
  omega

theorem walkExtHdrs_raisesOnly (nxt : Option Nat) (buf : Bytes) :
    RaisesOnly PyError.IsUnpackError (walkExtHdrs nxt buf) := by
  fun_induction walkExtHdrs nxt buf with
  | case1 buf => exact raisesOnly_ok _
  | case2 buf proto isExt problem failed =>
      exact raisesOnly_error.mpr
        (parseExtHdr_raisesOnly proto buf problem failed)
  | case3 buf proto isExt ext parsed problem failed ih =>
      rw [failed] at ih
      exact ih
  | case4 buf proto isExt ext parsed walk walked ih => exact raisesOnly_ok _
  | case5 buf proto notExt => exact raisesOnly_ok _

end DpktNg.Inet
