/-
The vectors of handshake messages, dpkt/ssl.py: arrays behind their lengths,
extensions, and the bodies of ClientHello and Certificate.  The table of cipher
suites in dpkt/ssl_ciphersuites.py is a parameter.
-/

import DpktNg.Library.Dict
import DpktNg.Library.Walks
import DpktNg.Python.StructFormat

namespace DpktNg.Tls

open Library

/-- `_SIZE_FORMATS[lenbytes - 1]`, where the index -1 is that of the last. -/
def sizeFormat : Nat → Nat
  | 1 => 1
  | 2 => 2
  | _ => 4

def parseVariableArray (buf : Bytes) (lenbytes : Nat) :
    Except PyError (Bytes × Nat) :=
  if lenbytes > 4 then .error (.other "AssertionError" [])
  else do
    let padding := if lenbytes = 3 then [0] else []
    let size ← unpackBe (sizeFormat lenbytes) (padding ++ buf.take lenbytes)
    .ok (cut buf lenbytes (lenbytes + size), size + lenbytes)

theorem parseVariableArray_size {buf data : Bytes} {lenbytes size : Nat}
    (parsed : parseVariableArray buf lenbytes = .ok (data, size)) :
    lenbytes ≤ size := by
  unfold parseVariableArray at parsed
  split at parsed
  · cases parsed
  · obtain ⟨length, _read, same⟩ := bind_eq_ok.mp parsed
    cases same
    exact Nat.le_add_left lenbytes length

/-- One extension: its type, and its data behind their length. -/
def readExtension (buf : Bytes) : Except PyError ((Nat × Bytes) × Nat) := do
  let extType ← unpackBe 2 (cut buf 0 2)
  let (extData, parsed) ← parseVariableArray (buf.drop 2) 2
  .ok ((extType, extData), 2 + parsed)

def extensionReader : ItemReader PyError UInt8 (Nat × Bytes) where
  read := readExtension
  positive := by
    intro buf item size read
    obtain ⟨extType, _first, others⟩ := bind_eq_ok.mp read
    obtain ⟨⟨extData, parsed⟩, _array, same⟩ := bind_eq_ok.mp others
    cases same
    omega

/-- The limit leaves out the two bytes of the length, which the pointer
counts. -/
def parseExtensions (buf : Bytes) : Except PyError (List (Nat × Bytes)) := do
  let extensionsLength ← unpackBe 2 (buf.take 2)
  extensionReader.walk buf extensionsLength 2

/-! ### ClientHello -/

structure CipherSuite where
  code : Nat
  kx : PyStr
  auth : PyStr
  cipher : PyStr
  mode : PyStr
  mac : PyStr
  name : Option PyStr
  encoding : Option PyStr
deriving DecidableEq, Repr

def getUnknownCiphersuite (code : Nat) : CipherSuite :=
  { code, kx := [], auth := [], cipher := [], mode := [], mac := []
    name := some "Unknown".toList, encoding := none }

/-- `BY_CODE`, made from `CIPHERSUITES` -/
def byCode (ciphersuites : List CipherSuite) : Dict Nat CipherSuite :=
  ciphersuites.foldl (fun dict cipher => dict.set cipher.code cipher) .empty

/-- `BY_CODE.get(code, get_unknown_ciphersuite(code))` -/
def ciphersuite (ciphersuites : List CipherSuite) (code : Nat) : CipherSuite :=
  ((byCode ciphersuites).get? code).getD (getUnknownCiphersuite code)

structure TLSClientHelloHeader where
  version : Nat
  random : Bytes
deriving DecidableEq, Repr

def TLSClientHelloHeader.format : StructFormat TLSClientHelloHeader where
  items := [.int 2, .str 32]
  values header := (header.version, header.random, ())
  ofValues := fun (version, random, _) => { version, random }
  ofValues_values _ := rfl

/-- Without extensions the packet has no such attribute. -/
structure TLSClientHello extends TLSClientHelloHeader where
  sessionId : Bytes
  ciphersuites : List CipherSuite
  compressionMethods : List Nat
  extensions : Option (List (Nat × Bytes))
  data : Bytes
deriving DecidableEq, Repr

/-- Extensions are looked for where at least six bytes are left. -/
def readExtensions (buf : Bytes) :
    Except PyError (Option (List (Nat × Bytes))) :=
  if buf.length ≥ 6 then do .ok (some (← parseExtensions buf)) else .ok none

namespace TLSClientHello

variable (table : List CipherSuite)

def unpack (buf : Bytes) : Except PyError TLSClientHello := do
  let (header, data) ← TLSClientHelloHeader.format.unpackHdr .big buf
  let (sessionId, pointer) ← parseVariableArray data 1
  let (suites, parsed) ← parseVariableArray (data.drop pointer) 2
  let pointer := pointer + parsed
  let codes ← unpackFields (List.replicate (suites.length / 2) 2) suites
  let (methods, parsed) ← parseVariableArray (data.drop pointer) 1
  let pointer := pointer + parsed
  let compressionMethods ←
    unpackFields (List.replicate methods.length 1) methods
  let extensions ← readExtensions (data.drop pointer)
  .ok
    { header with
      sessionId
      ciphersuites := codes.map (ciphersuite table)
      compressionMethods
      extensions
      data }

def parse (buf : Bytes) : Except PyError TLSClientHello :=
  packetInit "TLSClientHello" (some TLSClientHelloHeader.format.size)
    (unpack table) buf

end TLSClientHello

def certificateReader : ItemReader PyError UInt8 Bytes where
  read := fun buf => parseVariableArray buf 3
  positive := by
    intro buf item size read
    have := parseVariableArray_size read
    omega

structure TLSCertificate where
  certificates : List Bytes
  data : Bytes
deriving DecidableEq, Repr

def TLSCertificate.unpack (buf : Bytes) : Except PyError TLSCertificate :=
  let read : Except PyError TLSCertificate := do
    let (_allCerts, allCertsLen) ← parseVariableArray buf 3
    let certificates ← certificateReader.walk buf allCertsLen 3
    .ok { certificates, data := buf }
  match read with
  | .error .structError => .error (.needData [])
  | result => result

/-- `TLSCertificate(buf)`, whose `__hdr__` is empty -/
def TLSCertificate.parse (buf : Bytes) : Except PyError TLSCertificate :=
  packetInit "TLSCertificate" (some 0) TLSCertificate.unpack buf

/-! ### What is read from an encoded vector -/

/-- A vector of RFC 5246: the length in some bytes, and the data. -/
def vector (lenbytes : Nat) (data : Bytes) : Bytes :=
  beBytes lenbytes data.length ++ data

@[simp] theorem vector_length (lenbytes : Nat) (data : Bytes) :
    (vector lenbytes data).length = lenbytes + data.length := by
  unfold vector
  rw [List.length_append, beBytes_length]

theorem parseVariableArray_vector {lenbytes : Nat} {data : Bytes}
    (width : lenbytes = 1 ∨ lenbytes = 2 ∨ lenbytes = 3)
    (fits : data.length < 256 ^ lenbytes) (rest : Bytes) :
    parseVariableArray (vector lenbytes data ++ rest) lenbytes =
      .ok (data, (vector lenbytes data).length) := by
  have length := beBytes_length lenbytes data.length
  have front : (vector lenbytes data ++ rest).take lenbytes =
      beBytes lenbytes data.length := by
    unfold vector
    rw [List.append_assoc, List.take_left' length]
  have behind : cut (vector lenbytes data ++ rest) lenbytes
      (lenbytes + data.length) = data := by
    unfold vector
    exact cut_middle length rfl rest
  have size : unpackBe (sizeFormat lenbytes)
      ((if lenbytes = 3 then [0] else []) ++ beBytes lenbytes data.length) =
        .ok data.length := by
    rcases width with rfl | rfl | rfl
    · exact unpackBe_beBytes fits
    · exact unpackBe_beBytes fits
    · have padded (bytes : Bytes) : beNat ([0] ++ bytes) = beNat bytes := rfl
      unfold unpackBe sizeFormat
      rw [if_pos rfl, if_pos (by rw [List.length_append, length]; rfl), padded,
        beNat_beBytes fits]
  unfold parseVariableArray
  dsimp only
  rw [if_neg (by omega), front, size, ok_bind, behind, vector_length,
    Nat.add_comm]

theorem unpackFields_numbers {width : Nat} {numbers : List Nat}
    (fits : ∀ number ∈ numbers, number < 256 ^ width) :
    unpackFields (List.replicate numbers.length width)
      (numbers.flatMap (beBytes width)) = .ok numbers := by
  have packed : packFields (numbers.map fun number => (width, number)) =
      .ok (numbers.flatMap (beBytes width)) := by
    refine packFields_eq_ok_iff.mpr ⟨?_, ?_⟩
    · intro field member
      obtain ⟨number, present, rfl⟩ := List.mem_map.mp member
      exact fits number present
    · rw [List.flatMap_map]
  have unpacked := unpackFields_packFields packed
  rw [List.map_map, List.map_map] at unpacked
  have widths : numbers.map (Prod.fst ∘ fun number => (width, number)) =
      List.replicate numbers.length width := List.map_const'
  have values : numbers.map (Prod.snd ∘ fun number => (width, number)) =
      numbers := List.map_id numbers
  rw [widths, values] at unpacked
  exact unpacked

theorem numbers_length (width : Nat) (numbers : List Nat) :
    (numbers.flatMap (beBytes width)).length = width * numbers.length := by
  induction numbers with
  | nil => rfl
  | cons number rest ih =>
      rw [List.flatMap_cons, List.length_append, beBytes_length, ih,
        List.length_cons, Nat.mul_succ]
      omega

theorem ciphersuite_code (table : List CipherSuite) (code : Nat) :
    (ciphersuite table code).code = code := by
  have keyed (suites : List CipherSuite) (dict : Dict Nat CipherSuite)
      (own : ∀ entry ∈ dict.entries, entry.2.code = entry.1) :
      ∀ entry ∈ (suites.foldl (fun dict cipher =>
        dict.set cipher.code cipher) dict).entries,
          entry.2.code = entry.1 := by
    induction suites generalizing dict with
    | nil => exact own
    | cons cipher rest ih =>
        refine ih _ fun entry member => ?_
        rcases (Dict.mem_set dict cipher.code cipher entry).mp member with
          rfl | ⟨present, _other⟩
        · rfl
        · exact own entry present
  unfold ciphersuite
  cases found : (byCode table).get? code with
  | none => rfl
  | some suite =>
      exact keyed table .empty (List.forall_mem_nil _) _
        (Dict.get?_eq_some.mp found)

/-- An extension of RFC 5246. -/
def extensionBytes (extension : Nat × Bytes) : Bytes :=
  beBytes 2 extension.1 ++ vector 2 extension.2

structure ExtensionFits (extension : Nat × Bytes) : Prop where
  type : extension.1 < 256 ^ 2
  data : extension.2.length < 256 ^ 2

theorem readExtension_bytes {extension : Nat × Bytes}
    (fits : ExtensionFits extension) :
    extensionReader.Reads (extensionBytes extension) extension := by
  refine ⟨fun behind => ?_⟩
  have length := beBytes_length 2 extension.1
  have size : (extensionBytes extension).length =
      2 + (vector 2 extension.2).length := by
    unfold extensionBytes
    rw [List.length_append, length]
  have array := parseVariableArray_vector (Or.inr (Or.inl rfl)) fits.data
    behind
  change readExtension _ = _
  rw [size]
  unfold readExtension extensionBytes
  rw [List.append_assoc, cut_front length, unpackBe_beBytes fits.type, ok_bind,
    List.drop_left' length, array, ok_bind]

/-- All extensions are read: the limit falls two bytes short of their end, and
each of them has four bytes or more. -/
theorem parseExtensions_vector {extensions : List (Nat × Bytes)}
    (each : ∀ extension ∈ extensions, ExtensionFits extension)
    (fits : (extensions.flatMap extensionBytes).length < 256 ^ 2) :
    parseExtensions (vector 2 (extensions.flatMap extensionBytes)) =
      .ok extensions := by
  have length := beBytes_length 2 (extensions.flatMap extensionBytes).length
  have reads : List.Forall₂ extensionReader.Reads
      (extensions.map extensionBytes) extensions := by
    rw [List.forall₂_map_left_iff, List.forall₂_same]
    exact fun extension member => readExtension_bytes (each extension member)
  have long : ∀ chunk ∈ extensions.map extensionBytes, 2 < chunk.length := by
    intro chunk member
    obtain ⟨extension, _present, rfl⟩ := List.mem_map.mp member
    unfold extensionBytes
    rw [List.length_append, beBytes_length, vector_length]
    omega
  have walked := ItemReader.walk_chunks reads long
    (beBytes 2 (extensions.flatMap extensionBytes).length) []
  rw [List.append_nil, ← List.flatMap_def, length, Nat.add_sub_cancel_left]
    at walked
  unfold parseExtensions vector
  rw [List.take_left' length, unpackBe_beBytes fits, ok_bind, walked]

/-! ### Both messages -/

/-- The fields of a ClientHello, where no extensions stand for a message that
ends behind the compression methods. -/
structure ClientHello where
  header : TLSClientHelloHeader
  sessionId : Bytes
  codes : List Nat
  methods : List Nat
  extensions : List (Nat × Bytes)

namespace ClientHello

variable (hello : ClientHello)

/-- Every field fits its encoding. -/
structure Fits : Prop where
  header : TLSClientHelloHeader.format.Fits hello.header
  sessionId : hello.sessionId.length < 256 ^ 1
  codes : ∀ code ∈ hello.codes, code < 256 ^ 2
  codesLength : 2 * hello.codes.length < 256 ^ 2
  methods : ∀ method ∈ hello.methods, method < 256 ^ 1
  methodsLength : hello.methods.length < 256 ^ 1
  extensions : ∀ extension ∈ hello.extensions, ExtensionFits extension
  extensionsLength :
    (hello.extensions.flatMap extensionBytes).length < 256 ^ 2

def extensionsBytes : Bytes :=
  if hello.extensions = [] then []
  else vector 2 (hello.extensions.flatMap extensionBytes)

def vectors : Bytes :=
  vector 1 hello.sessionId ++
    (vector 2 (hello.codes.flatMap (beBytes 2)) ++
      (vector 1 (hello.methods.flatMap (beBytes 1)) ++ hello.extensionsBytes))

def bytes : Bytes :=
  TLSClientHelloHeader.format.bytes .big hello.header ++ hello.vectors

variable {hello}

theorem readExtensions_bytes (fits : hello.Fits) :
    readExtensions hello.extensionsBytes = .ok
      (if hello.extensions = [] then none else some hello.extensions) := by
  unfold readExtensions extensionsBytes
  by_cases none : hello.extensions = []
  · rw [if_pos none, if_pos none]
    rfl
  · obtain ⟨first, rest, some⟩ := List.exists_cons_of_ne_nil none
    have six : (vector 2 (hello.extensions.flatMap extensionBytes)).length ≥
        6 := by
      rw [vector_length, some, List.flatMap_cons, List.length_append]
      unfold extensionBytes
      rw [List.length_append, beBytes_length, vector_length]
      omega
    rw [if_neg none, if_neg none, if_pos six,
      parseExtensions_vector fits.extensions fits.extensionsLength, ok_bind]

theorem parse_bytes (table : List CipherSuite) (fits : hello.Fits) :
    TLSClientHello.parse table hello.bytes = .ok
      { hello.header with
        sessionId := hello.sessionId
        ciphersuites := hello.codes.map (ciphersuite table)
        compressionMethods := hello.methods
        extensions :=
          if hello.extensions = [] then none else some hello.extensions
        data := hello.vectors } := by
  have codesLength := numbers_length 2 hello.codes
  have methodsLength := numbers_length 1 hello.methods
  have half : (hello.codes.flatMap (beBytes 2)).length / 2 =
      hello.codes.length := by
    omega
  have session := parseVariableArray_vector (Or.inl rfl) fits.sessionId
    (vector 2 (hello.codes.flatMap (beBytes 2)) ++
      (vector 1 (hello.methods.flatMap (beBytes 1)) ++ hello.extensionsBytes))
  have suites := parseVariableArray_vector (Or.inr (Or.inl rfl))
    (by rw [codesLength]; exact fits.codesLength)
    (vector 1 (hello.methods.flatMap (beBytes 1)) ++ hello.extensionsBytes)
  have methods := parseVariableArray_vector (Or.inl rfl)
    (by rw [methodsLength, Nat.one_mul]; exact fits.methodsLength)
    hello.extensionsBytes
  have single : (hello.methods.flatMap (beBytes 1)).length =
      hello.methods.length := by
    omega
  refine packetInit_eq_ok.mpr ?_
  unfold TLSClientHello.unpack bytes
  rw [StructFormat.unpackHdr_bytes fits.header, ok_bind]
  unfold vectors
  dsimp only
  rw [session, ok_bind]
  dsimp only
  rw [List.drop_left, suites, ok_bind]
  dsimp only
  rw [half, unpackFields_numbers fits.codes, ok_bind, ← List.drop_drop,
    List.drop_left, List.drop_left, methods, ok_bind]
  dsimp only
  rw [single, unpackFields_numbers fits.methods, ok_bind, ← List.drop_drop,
    ← List.drop_drop, List.drop_left, List.drop_left, List.drop_left,
    readExtensions_bytes fits, ok_bind]

end ClientHello

theorem parse_certificates {certificates : List Bytes}
    (each : ∀ certificate ∈ certificates, certificate.length < 256 ^ 3)
    (fits : (certificates.flatMap (vector 3)).length < 256 ^ 3) :
    TLSCertificate.parse (vector 3 (certificates.flatMap (vector 3))) = .ok
      { certificates, data := vector 3 (certificates.flatMap (vector 3)) } := by
  have length := beBytes_length 3 (certificates.flatMap (vector 3)).length
  have reads : List.Forall₂ certificateReader.Reads
      (certificates.map (vector 3)) certificates := by
    rw [List.forall₂_map_left_iff, List.forall₂_same]
    exact fun certificate member => ⟨parseVariableArray_vector
      (Or.inr (Or.inr rfl)) (each certificate member)⟩
  have long : ∀ chunk ∈ certificates.map (vector 3), 0 < chunk.length := by
    intro chunk member
    obtain ⟨certificate, _present, rfl⟩ := List.mem_map.mp member
    rw [vector_length]
    omega
  have all := parseVariableArray_vector (Or.inr (Or.inr rfl)) fits []
  have walked := ItemReader.walk_chunks reads long
    (beBytes 3 (certificates.flatMap (vector 3)).length) []
  rw [List.append_nil] at all walked
  rw [← List.flatMap_def, length, Nat.sub_zero] at walked
  rw [vector_length] at all
  refine packetInit_eq_ok.mpr ?_
  unfold TLSCertificate.unpack
  dsimp only
  rw [all, ok_bind]
  dsimp only
  unfold vector at walked ⊢
  rw [walked, ok_bind]

/-- The vectors of both messages come back as they were encoded. -/
theorem handshake_vectors (table : List CipherSuite) :
    (∀ hello : ClientHello, hello.Fits →
      ∃ parsed, TLSClientHello.parse table hello.bytes = .ok parsed ∧
        parsed.sessionId = hello.sessionId ∧
        parsed.ciphersuites.map CipherSuite.code = hello.codes ∧
        parsed.compressionMethods = hello.methods ∧
        parsed.extensions =
          if hello.extensions = [] then none else some hello.extensions) ∧
    ∀ certificates : List Bytes,
      (∀ certificate ∈ certificates, certificate.length < 256 ^ 3) →
      (certificates.flatMap (vector 3)).length < 256 ^ 3 →
      ∃ parsed,
        TLSCertificate.parse (vector 3 (certificates.flatMap (vector 3))) =
          .ok parsed ∧ parsed.certificates = certificates := by
  constructor
  · intro hello fits
    refine ⟨_, hello.parse_bytes table fits, rfl, ?_, rfl, rfl⟩
    rw [List.map_map]
    have own : CipherSuite.code ∘ ciphersuite table = id :=
      funext (ciphersuite_code table)
    rw [own, List.map_id]
  · intro certificates each fits
    exact ⟨_, parse_certificates each fits, rfl⟩

/-- `CipherSuite(0x002f, 'RSA', '', 'AES_128', 'CBC', 'SHA')` -/
def rsaWithAes128 : CipherSuite :=
  { code := 0x002f, kx := "RSA".toList, auth := [], cipher := "AES_128".toList
    mode := "CBC".toList, mac := "SHA".toList, name := none, encoding := none }

/-- A hello with a known suite, one that is not known, and an extension. -/
def shortHello : ClientHello :=
  { header := { version := 0x0303, random := zeros 32 }, sessionId := [5]
    codes := [0x002f, 0x0a0a], methods := [0], extensions := [(0xff01, [0])] }

theorem shortHello_fits : shortHello.Fits where
  header := by decide
  sessionId := by decide
  codes := by decide
  codesLength := by decide
  methods := by decide
  methodsLength := by decide
  extensions := List.forall_mem_singleton.mpr ⟨by decide, by decide⟩
  extensionsLength := by decide

theorem handshake_vectors_short :
    (∃ parsed,
      TLSClientHello.parse [rsaWithAes128] shortHello.bytes = .ok parsed ∧
      parsed.sessionId = [5] ∧
      parsed.ciphersuites.map CipherSuite.code = [0x002f, 0x0a0a] ∧
      parsed.compressionMethods = [0] ∧
      parsed.extensions = some [(0xff01, [0])]) ∧
    ∃ parsed, TLSCertificate.parse (vector 3 ([[1, 2], []].flatMap (vector 3))) =
        .ok parsed ∧ parsed.certificates = [[1, 2], []] :=
  ⟨(handshake_vectors [rsaWithAes128]).1 shortHello shortHello_fits,
    (handshake_vectors [rsaWithAes128]).2 [[1, 2], []] (by decide) (by decide)⟩

end DpktNg.Tls
