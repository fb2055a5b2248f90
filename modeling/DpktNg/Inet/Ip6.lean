/-
IPv6 packets, `IP6` of dpkt/ip6.py: parsing, which dispatches to the registered
upper-layer parsers, and serialising, which fills in a transport checksum.
-/

import DpktNg.Inet.ExtensionHeaders
import DpktNg.Inet.Transport
import DpktNg.Library.Dict

namespace DpktNg.Inet

open Library

structure Ip6Hdr where
  vFcFlow : Nat := 0x60000000
  plen : Nat := 0
  nxt : Nat := 0
  hlim : Nat := 0
  src : Bytes := []
  dst : Bytes := []
deriving DecidableEq, Repr

/-- A packet whose data is of type `Data`.  A packet that was not parsed has no
extension headers; `p` exists once it was set. -/
structure IP6 (Data : Type) where
  hdr : Ip6Hdr := {}
  extensionHdrs : Dict Nat ExtHdr := .empty
  allExtensionHeaders : List ExtHdr := []
  p : Option Nat := none
  data : Data
deriving DecidableEq

def Ip6Hdr.fields (self : Ip6Hdr) : List (Nat × Nat) :=
  [(4, self.vFcFlow), (2, self.plen), (1, self.nxt), (1, self.hlim)]

def Ip6Hdr.bytes (self : Ip6Hdr) : Except PyError Bytes := do
  let numbers ← packHdr self.fields
  .ok (numbers ++ packString 16 self.src ++ packString 16 self.dst)

/-- The parsers that `_protosw` registers, and raw bytes as data. -/
structure Upper (Data : Type) where
  protosw : Nat → Option (Bytes → Except PyError Data)
  raw : Bytes → Data

/-- `self._protosw[nxt](buf)`, and the bytes where no parser is registered or
the parser raises `UnpackError`. -/
def Upper.decode {Data : Type} (upper : Upper Data) (nxt : Option Nat)
    (buf : Bytes) : Except PyError Data :=
  match nxt.bind upper.protosw with
  | none => .ok (upper.raw buf)
  | some parser =>
      match parser buf with
      | .ok data => .ok data
      | .error problem =>
          if problem.IsUnpackError then .ok (upper.raw buf)
          else .error problem

/-- `self.nxt == 44 and ext.frag_off > 0`, where `ext` is the last extension
header and only a fragment header has the attribute. -/
def laterFragment (nxt : Nat) (walk : Walk) : Except PyError Bool :=
  if nxt = ipProtoFragment then
    match walk.exts.getLast?.bind fun entry => entry.2.fragOff? with
    | some fragOff => .ok (0 < fragOff)
    | none => .error .attributeError
  else .ok false

/-- `self.data`: later fragments are not decoded. -/
def Upper.dataOf {Data : Type} (upper : Upper Data) (fragment : Bool)
    (walk : Walk) : Except PyError Data :=
  if fragment then .ok (upper.raw walk.payload)
  else upper.decode walk.final walk.payload

/-- The dictionary that the walk fills. -/
def extensionDict (exts : List (Nat × ExtHdr)) : Dict Nat ExtHdr :=
  exts.foldl (fun dict entry => dict.set entry.1 entry.2) .empty

section Parsing

variable {Data : Type} (upper : Upper Data)

def IP6.unpack (buf : Bytes) : Except PyError (IP6 Data) := do
  let (header, data) ← takeHeader 40 buf
  let [vFcFlow, plen, nxt, hlim] ← unpackFields [4, 2, 1, 1] (header.take 8)
    | .error .structError
  let hdr : Ip6Hdr :=
    { vFcFlow, plen, nxt, hlim
      src := cut header 8 24, dst := cut header 24 40 }
  let payload := if plen ≠ 0 then data.take plen else data
  let walk ← walkExtHdrs (some nxt) payload
  let fragment ← laterFragment nxt walk
  let data ← upper.dataOf fragment walk
  .ok
    { hdr, data
      extensionHdrs := extensionDict walk.exts
      allExtensionHeaders := walk.exts.map Prod.snd
      p := walk.final }

def IP6.parse : Bytes → Except PyError (IP6 Data) :=
  packetInit "IP6" (some 40) (IP6.unpack upper)

end Parsing

/-- `headers_str`.  An ESP header has no `nxt`. -/
def IP6.headersStr {Data : Type} (self : IP6 Data) :
    Except PyError (Nat × Bytes) :=
  match self.allExtensionHeaders.getLast? with
  | some last =>
      match last.nxt? with
      | none => .error .attributeError
      | some nxt => do
          let pieces ← self.allExtensionHeaders.mapM ExtHdr.bytes
          .ok (nxt, pieces.flatten)
  | none =>
      extHdrs.foldlM (fun (nxt, headerStr) proto =>
        match self.extensionHdrs.get? proto with
        | none => .ok (nxt, headerStr)
        | some ext =>
            match ext.nxt? with
            | none => .error .attributeError
            | some next => do
                let piece ← ext.bytes
                .ok (next, headerStr ++ piece)) (self.hdr.nxt, [])

/-- `struct.pack('>16s16sxBH', src, dst, p, len)` -/
def packPseudoHeader6 (src dst : Bytes) (p len : Nat) :
    Except PyError Bytes := do
  let numbers ← packFields [(1, p), (2, len)]
  .ok (packString 16 src ++ packString 16 dst ++ [0] ++ numbers)

/-- The transport checksum, if its field is zero.  Unlike IPv4 a computed zero
stays zero. -/
def IP6.fillTransport (self : IP6 Transport) (p : Nat) :
    Except PyError (IP6 Transport) :=
  if (p = 6 ∨ p = 17 ∨ p = 58) ∧ self.data.sum? = some 0 then do
    let bytes ← self.data.bytes
    let s ← packPseudoHeader6 self.hdr.src self.hdr.dst p bytes.length
    let s := inCksumAdd 0 s
    let s := inCksumAdd s bytes
    .ok { self with data := self.data.setSum (inCksumDone s) }
  else .ok self

/-- `bytes(ip6)`, and the packet as the call leaves it. -/
def IP6.bytes (self : IP6 Transport) :
    Except PyError (Bytes × IP6 Transport) := do
  let (p, hdrStr) ← self.headersStr
  let self ← IP6.fillTransport { self with p := some p } p
  let header ← self.hdr.bytes
  let data ← self.data.bytes
  .ok (header ++ hdrStr ++ data, self)

def Ip6Hdr.wire (self : Ip6Hdr) : Bytes :=
  (self.fields.flatMap fun field => beBytes field.1 field.2) ++
    packString 16 self.src ++ packString 16 self.dst

@[simp] theorem Ip6Hdr.wire_length (hdr : Ip6Hdr) :
    hdr.wire.length = 40 := by
  unfold Ip6Hdr.wire Ip6Hdr.fields
  simp only [List.flatMap_cons, List.flatMap_nil, List.length_append,
    beBytes_length, packString_length, List.length_nil]

theorem Ip6Hdr.bytes_eq_ok_iff {hdr : Ip6Hdr} {out : Bytes} :
    hdr.bytes = .ok out ↔ FieldsFit hdr.fields ∧ out = hdr.wire := by
  unfold Ip6Hdr.bytes
  rw [wrapped_eq_ok_iff fun _numbers => packHdr_eq_ok_iff]
  rfl

def ip6Nxt (buf : Bytes) : Nat := beNat (cut buf 6 7)

def ip6Plen (buf : Bytes) : Nat := beNat (cut buf 4 6)

/-- What the fixed header is followed by, up to the payload length. -/
def ip6Payload (buf : Bytes) : Bytes :=
  if ip6Plen buf ≠ 0 then (buf.drop 40).take (ip6Plen buf) else buf.drop 40

/-- A chain that starts with a fragment header, can be read to its end, and
ends with a header of another class. -/
structure FragOffMissing (buf : Bytes) : Prop where
  whole : 40 ≤ buf.length
  starts : ip6Nxt buf = ipProtoFragment
  ends : ∃ walk, walkExtHdrs (some (ip6Nxt buf)) (ip6Payload buf) = .ok walk ∧
    (walk.exts.getLast?.bind fun entry => entry.2.fragOff?) = none

/-- The registered parsers raise only errors of the library. -/
def Upper.RaisesUnpackErrors {Data : Type} (upper : Upper Data) : Prop :=
  ∀ p parser, upper.protosw p = some parser →
    ∀ buf, RaisesOnly PyError.IsUnpackError (parser buf)

section Raising

variable {Data : Type} (upper : Upper Data)

theorem IP6.unpack_eq (buf : Bytes) :
    IP6.unpack upper buf =
      if buf.length < 40 then .error .structError
      else (do
        let walk ← walkExtHdrs (some (ip6Nxt buf)) (ip6Payload buf)
        let fragment ← laterFragment (ip6Nxt buf) walk
        let data ← upper.dataOf fragment walk
        .ok
          { hdr :=
              { vFcFlow := beNat (cut buf 0 4), plen := ip6Plen buf
                nxt := ip6Nxt buf, hlim := beNat (cut buf 7 8)
                src := cut buf 8 24, dst := cut buf 24 40 }
            extensionHdrs := extensionDict walk.exts
            allExtensionHeaders := walk.exts.map Prod.snd
            p := walk.final
            data }) := by
  unfold IP6.unpack takeHeader
  split
  · rfl
  · rename_i enough
    have header : (buf.take 40).take 8 = buf.take 8 := by
      rw [List.take_take]
      rfl
    have fields : unpackFields [4, 2, 1, 1] ((buf.take 40).take 8) =
        .ok [beNat (cut buf 0 4), ip6Plen buf, ip6Nxt buf,
          beNat (cut buf 7 8)] := by
      rw [header]
      refine (@unpackFields_take [4, 2, 1, 1] buf (by change 8 ≤ _; omega)).trans
        (congrArg Except.ok ?_)
      simp [fieldValues, cut, ip6Plen, ip6Nxt, List.take_take, List.drop_take,
        List.drop_drop]
    rw [ok_bind]
    dsimp only
    rw [fields, ok_bind]
    dsimp only
    rw [cut_take (by decide), cut_take (by decide)]
    rfl

theorem Upper.decode_ok {upper : Upper Data}
    (library : upper.RaisesUnpackErrors) (nxt : Option Nat) (buf : Bytes) :
    ∃ data, upper.decode nxt buf = .ok data := by
  unfold Upper.decode
  split
  · exact ⟨_, rfl⟩
  · rename_i parser registered
    obtain ⟨p, _same, found⟩ := Option.bind_eq_some_iff.mp registered
    cases result : parser buf with
    | ok data => exact ⟨data, rfl⟩
    | error problem =>
        dsimp only
        rw [if_pos (library p parser found buf problem result)]
        exact ⟨_, rfl⟩

theorem Upper.dataOf_ok {upper : Upper Data}
    (library : upper.RaisesUnpackErrors) (fragment : Bool) (walk : Walk) :
    ∃ data, upper.dataOf fragment walk = .ok data := by
  cases fragment with
  | true => exact ⟨_, rfl⟩
  | false => exact Upper.decode_ok library walk.final walk.payload

theorem IP6.parse_of_fragOffMissing {buf : Bytes}
    (missing : FragOffMissing buf) :
    IP6.parse upper buf = .error .attributeError := by
  obtain ⟨whole, starts, walk, walked, last⟩ := missing
  have fragment : laterFragment (ip6Nxt buf) walk = .error .attributeError := by
    unfold laterFragment
    rw [if_pos starts, last]
  unfold IP6.parse packetInit
  rw [IP6.unpack_eq, if_neg (by omega), walked, ok_bind, fragment]
  rfl

theorem laterFragment_ok (nxt : Nat) {walk : Walk}
    (readable : nxt = ipProtoFragment →
      (walk.exts.getLast?.bind fun entry => entry.2.fragOff?) ≠ none) :
    ∃ fragment, laterFragment nxt walk = .ok fragment := by
  unfold laterFragment
  split
  · rename_i starts
    obtain ⟨fragOff, found⟩ := Option.ne_none_iff_exists'.mp (readable starts)
    rw [found]
    exact ⟨_, rfl⟩
  · exact ⟨false, rfl⟩

theorem IP6.parse_raisesOnly {upper : Upper Data}
    (library : upper.RaisesUnpackErrors) {buf : Bytes}
    (readable : ¬FragOffMissing buf) :
    RaisesOnly PyError.IsUnpackError (IP6.parse upper buf) := by
  unfold IP6.parse
  apply packetInit_raisesOnly
  rw [IP6.unpack_eq]
  split
  · exact raisesOnly_error.mpr (Or.inl rfl)
  · rename_i enough
    apply RaisesOnly.bind
    · exact (walkExtHdrs_raisesOnly _ _).mono fun _ => Or.inr
    · intro walk walked
      obtain ⟨fragment, known⟩ := laterFragment_ok (ip6Nxt buf)
        fun starts missing =>
          readable ⟨by omega, starts, walk, walked, missing⟩
      obtain ⟨data, decoded⟩ := Upper.dataOf_ok library fragment walk
      rw [known, ok_bind, decoded, ok_bind]
      exact raisesOnly_ok _

/-- Parsing returns a packet or raises an error of the library, unless the
buffer holds a chain of the kind above. -/
theorem ip6_parse_raisesOnly_iff (upper : Upper Data)
    (library : upper.RaisesUnpackErrors) (buf : Bytes) :
    ((∃ packet, IP6.parse upper buf = .ok packet) ∨
        ∃ problem, IP6.parse upper buf = .error problem ∧
          problem.IsUnpackError) ↔
      ¬FragOffMissing buf := by
  constructor
  · intro fine missing
    have raised := IP6.parse_of_fragOffMissing upper missing
    rcases fine with ⟨packet, parsed⟩ | ⟨problem, failed, expected⟩
    · rw [raised] at parsed
      cases parsed
    · rw [raised] at failed
      cases failed
      exact expected
  · intro readable
    have raises := IP6.parse_raisesOnly library readable
    cases result : IP6.parse upper buf with
    | ok packet => exact Or.inl ⟨packet, rfl⟩
    | error problem => exact Or.inr ⟨problem, rfl, raises problem result⟩

end Raising

/-- No parser is registered. -/
def bareUpper : Upper Transport := ⟨fun _ => none, .raw⟩

theorem bareUpper_raisesUnpackErrors : bareUpper.RaisesUnpackErrors :=
  fun _p _decode impossible => by cases impossible

/-- A fragment header followed by destination options. -/
def fragmentThenOptions : Bytes :=
  [0x60, 0, 0, 0, 0, 0, 44, 64] ++ zeros 32 ++
    [60, 0, 0, 0, 0, 0, 0, 0] ++ [59, 0, 1, 4, 0, 0, 0, 0]

theorem fragmentThenOptions_raises :
    ¬∀ (Data : Type) (upper : Upper Data), upper.RaisesUnpackErrors →
      ∀ buf, (∃ packet, IP6.parse upper buf = .ok packet) ∨
        ∃ problem, IP6.parse upper buf = .error problem ∧
          problem.IsUnpackError := by
  intro fine
  have raised : IP6.parse bareUpper fragmentThenOptions =
      .error .attributeError := by
    decide +kernel
  rcases fine Transport bareUpper bareUpper_raisesUnpackErrors
      fragmentThenOptions with ⟨packet, parsed⟩ | ⟨problem, failed, expected⟩
  · rw [raised] at parsed
    cases parsed
  · rw [raised] at failed
    cases failed
    exact expected

/-- UDP is registered. -/
def udpUpper : Upper Transport where
  protosw := fun p =>
    if p = ipProtoUdp then
      some fun buf => do
        let datagram ← UDP.parse buf
        return .udp datagram
    else none
  raw := .raw

theorem udpUpper_raisesUnpackErrors : udpUpper.RaisesUnpackErrors := by
  intro p parser registered buf
  unfold udpUpper at registered
  dsimp only at registered
  split at registered
  · cases registered
    exact (UDP.parse_raisesOnly buf).bind fun _datagram _parsed =>
      raisesOnly_ok _
  · cases registered

/-- The only fragment of a datagram without data. -/
def fragmentThenUdp : Bytes :=
  [0x60, 0, 0, 0, 0, 16, 44, 64] ++ zeros 32 ++
    [17, 0, 0, 0, 0, 0, 0, 1] ++ [0, 53, 0, 53, 0, 8, 0, 0]

theorem ip6_parse_raisesOnly_iff_udp :
    ((∃ packet, IP6.parse udpUpper fragmentThenUdp = .ok packet) ∨
        ∃ problem, IP6.parse udpUpper fragmentThenUdp = .error problem ∧
          problem.IsUnpackError) ↔
      ¬FragOffMissing fragmentThenUdp :=
  ip6_parse_raisesOnly_iff udpUpper udpUpper_raisesUnpackErrors
    fragmentThenUdp

end DpktNg.Inet
