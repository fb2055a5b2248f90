/-
`MIMEParser.parse` of dpkt/filecarver.py: the boundary, the parts that it
separates, and the file in a part.
-/

import DpktNg.Carving.FileCarver
import DpktNg.Python.Splitting
import DpktNg.Python.TransferCodings

namespace DpktNg.Carving

open DpktNg.Library

namespace MIMEParser

/-- `boundary="?([^"\r\n]+)"?` -/
def boundaryPattern : Pattern Bytes :=
  searchBytes (exactThen (asciiBytes "boundary=") optionallyQuoted)

/-- `filename="?([^"\r\n]+)"?` -/
def filenamePattern : Pattern Bytes :=
  searchBytes (exactThen (asciiBytes "filename=") optionallyQuoted)

/-- `(\S+)` -/
def untilSpace : Pattern Bytes := fun bytes =>
  let value := bytes.takeWhile fun byte => ¬isSpaceByte byte
  if value = [] then none else some value

/-- `Content-Transfer-Encoding:\s*(\S+)` -/
def contentTransferEncoding : Pattern Bytes :=
  searchBytes (literalThen (asciiBytes "Content-Transfer-Encoding:")
    (greedyThen isSpaceByte untilSpace))

def encodingOf (part : Bytes) : Bytes :=
  match contentTransferEncoding part with
  | some value => value.map lowerByte
  | none => asciiBytes "identity"

/-- What `parse` cuts off at the end of a body. -/
def stripEnd (body : Bytes) : Bytes :=
  if (asciiBytes "--" ++ crlf).isSuffixOf body then body.take (body.length - 4)
  else if (asciiBytes "--").isSuffixOf body then body.take (body.length - 2)
  else if crlf.isSuffixOf body then body.take (body.length - 2)
  else body

/-- White space goes before base64 is decoded, and stays away if that raises. -/
def decodeBody (encoding body : Bytes) : Bytes :=
  if encoding = asciiBytes "base64" then
    let body := body.filter fun byte => ¬isSpaceByte byte
    (b64decode body).getD body
  else if encoding = asciiBytes "quoted-printable" then a2bQp body
  else body

/-- The body of the loop: the file in a part, with its MIME type. -/
def extract (part : Bytes) : Option (PyStr × Bytes × PyStr) :=
  if containsBytes (asciiBytes "Content-Disposition") part then
    let filename :=
      match filenamePattern part with
      | some value => decodeLatin1 value
      | none => "attachment".toList
    match findBytes headerEnd part with
    | none => none
    | some index =>
        let body := stripEnd (part.drop (index + 4))
        let mimeType :=
          match contentType part with
          | some value => decodeLatin1 value
          | none => []
        some (filename, decodeBody (encodingOf part) body, mimeType)
  else none

def parse (rawEmail : Bytes) : List (PyStr × Bytes × PyStr) :=
  match boundaryPattern rawEmail with
  | none => []
  | some value =>
      let boundary := asciiBytes "--" ++ value
      (splitBytes boundary rawEmail).tail.filterMap extract

theorem stripEnd_length (body : Bytes) :
    (stripEnd body).length ≤ body.length := by
  have shorter (count : Nat) : (body.take count).length ≤ body.length :=
    (List.take_prefix count body).length_le
  unfold stripEnd
  split
  · exact shorter _
  · split
    · exact shorter _
    · split
      · exact shorter _
      · exact le_rfl

theorem decodeBody_length (encoding body : Bytes) :
    (decodeBody encoding body).length ≤ body.length := by
  unfold decodeBody
  split
  · have kept := List.length_filter_le (fun byte => ¬isSpaceByte byte) body
    dsimp only
    cases decoded : b64decode (body.filter fun byte => ¬isSpaceByte byte) with
    | none => exact kept
    | some out =>
        have shorter := b64decode_length decoded
        change out.length ≤ body.length
        omega
  · split
    · exact a2bQp_length body
    · exact le_rfl

/-- An encoding that has nothing to decode in a body: base64 that cannot be
decoded, quoted-printable without an escape, or another. -/
structure LeftAlone (encoding body : Bytes) : Prop where
  base64 : encoding = asciiBytes "base64" → body = [] ∨
    ((∀ byte ∈ body, ¬isSpaceByte byte) ∧ b64decode body = none)
  quotedPrintable : encoding = asciiBytes "quoted-printable" → QpPlain body

theorem leftAlone_other {encoding body : Bytes}
    (notBase64 : encoding ≠ asciiBytes "base64")
    (notPrintable : encoding ≠ asciiBytes "quoted-printable") :
    LeftAlone encoding body :=
  ⟨fun same => absurd same notBase64, fun same => absurd same notPrintable⟩

theorem base64_eq_self_iff {body : Bytes} :
    (b64decode (body.filter fun byte => ¬isSpaceByte byte)).getD
        (body.filter fun byte => ¬isSpaceByte byte) = body ↔
      body = [] ∨
        ((∀ byte ∈ body, ¬isSpaceByte byte) ∧ b64decode body = none) := by
  have spaceless : (∀ byte ∈ body, ¬isSpaceByte byte) ↔
      (body.filter fun byte => ¬isSpaceByte byte) = body := by
    rw [List.filter_eq_self]
    exact forall₂_congr fun byte _ => decide_eq_true_iff.symm
  rw [spaceless]
  constructor
  · intro same
    cases decoded : b64decode (body.filter fun byte => ¬isSpaceByte byte) with
    | none =>
        rw [decoded, Option.getD_none] at same
        rw [same] at decoded
        exact Or.inr ⟨same, decoded⟩
    | some out =>
        have shorter := b64decode_length decoded
        have kept := List.length_filter_le (fun byte => ¬isSpaceByte byte) body
        rw [decoded, Option.getD_some] at same
        rw [same] at shorter
        exact Or.inl (List.eq_nil_of_length_eq_zero (by omega))
  · rintro (rfl | ⟨same, refused⟩)
    · rfl
    · rw [same, refused]
      rfl

theorem decodeBody_eq_self_iff {encoding body : Bytes} :
    decodeBody encoding body = body ↔ LeftAlone encoding body := by
  have other : asciiBytes "base64" ≠ asciiBytes "quoted-printable" := by decide
  by_cases base64 : encoding = asciiBytes "base64"
  · have decodes : decodeBody encoding body =
        (b64decode (body.filter fun byte => ¬isSpaceByte byte)).getD
          (body.filter fun byte => ¬isSpaceByte byte) := if_pos base64
    have only : LeftAlone encoding body ↔ body = [] ∨
        ((∀ byte ∈ body, ¬isSpaceByte byte) ∧ b64decode body = none) :=
      ⟨fun alone => alone.base64 base64, fun kept => ⟨fun _ => kept,
        fun printable => absurd (base64.symm.trans printable) other⟩⟩
    rw [decodes, only]
    exact base64_eq_self_iff
  · by_cases printable : encoding = asciiBytes "quoted-printable"
    · have decodes : decodeBody encoding body = a2bQp body :=
        (if_neg base64).trans (if_pos printable)
      rw [decodes, a2bQp_eq_self_iff]
      exact ⟨fun plain => ⟨fun same => absurd same base64, fun _ => plain⟩,
        fun alone => alone.quotedPrintable printable⟩
    · have decodes : decodeBody encoding body = body :=
        (if_neg base64).trans (if_neg printable)
      exact iff_of_true decodes (leftAlone_other base64 printable)

theorem optionallyQuoted_infix {buf captured : Bytes}
    (found : optionallyQuoted buf = some captured) :
    captured <:+: buf ∧ captured ≠ [] := by
  have value {unquoted : Bytes} {inClass : UInt8 → Bool}
      (here : (if unquoted.takeWhile inClass = [] then none
        else some (unquoted.takeWhile inClass)) = some captured) :
      captured <:+: unquoted ∧ captured ≠ [] := by
    split at here
    · cases here
    · rename_i some_value
      cases here
      exact ⟨(List.takeWhile_prefix inClass).isInfix, some_value⟩
  unfold optionallyQuoted at found
  dsimp only at found
  split at found
  · rename_i rest
    obtain ⟨inside, some_value⟩ := value found
    exact ⟨inside.trans (List.suffix_cons _ rest).isInfix, some_value⟩
  · exact value found

/-- A file is named by bytes of its part, or has the name that a part without
one gets. -/
theorem extract_filename {part body : Bytes} {filename mimeType : PyStr}
    (extracted : extract part = some (filename, body, mimeType)) :
    ∃ name, filename = decodeLatin1 name ∧ name ≠ [] ∧
      (name <:+: part ∨ name = asciiBytes "attachment") := by
  unfold extract at extracted
  split at extracted
  · dsimp only at extracted
    split at extracted
    · cases extracted
    · cases extracted
      split
      · rename_i name found
        obtain ⟨rest, inside, quoted⟩ := searchBytes_behind found
        obtain ⟨within, some_name⟩ := optionallyQuoted_infix quoted
        have suffix : rest <:+ part :=
          (List.suffix_append _ rest).trans inside
        exact ⟨name, rfl, some_name, Or.inl (within.trans suffix.isInfix)⟩
      · exact ⟨asciiBytes "attachment", rfl, by decide, Or.inr rfl⟩
  · cases extracted

end MIMEParser

end DpktNg.Carving
