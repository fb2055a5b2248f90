/-
Attachments in a multipart message, and which of them `MIMEParser.parse` gives
back as they are.
-/

import DpktNg.Carving.MimeParser

namespace DpktNg.Carving

open DpktNg.Library MIMEParser

/-- What begins a delimiter line. -/
def delimiterOf (boundary : Bytes) : Bytes := asciiBytes "--" ++ boundary

/-- A boundary that can be quoted. -/
structure BoundaryFits (boundary : Bytes) : Prop where
  present : boundary ≠ []
  free : ∀ byte ∈ boundary, byte ≠ 0x22 ∧ byte ≠ 0x0d ∧ byte ≠ 0x0a

section

variable {boundary : Bytes}

theorem delimiter_ne_nil : delimiterOf boundary ≠ [] :=
  List.append_ne_nil_of_left_ne_nil (by decide) boundary

theorem dashless {text : Bytes} (none : 0x2d ∉ text) :
    ¬delimiterOf boundary <:+: text := by
  intro inside
  have dash : 0x2d ∈ asciiBytes "--" := by decide
  exact none (inside.subset (List.mem_append_left boundary dash))

theorem not_mem_delimiter (fits : BoundaryFits boundary) {byte : UInt8}
    (special : byte = 0x22 ∨ byte = 0x0d ∨ byte = 0x0a) :
    byte ∉ delimiterOf boundary := by
  intro member
  rcases List.mem_append.mp member with dashes | inBoundary
  · have two : asciiBytes "--" = List.replicate 2 0x2d := rfl
    rw [two] at dashes
    rw [List.eq_of_mem_replicate dashes] at special
    revert special
    decide
  · obtain ⟨notQuote, notReturn, notFeed⟩ := fits.free byte inBoundary
    rcases special with quote | carriageReturn | lineFeed
    · exact notQuote quote
    · exact notReturn carriageReturn
    · exact notFeed lineFeed

/-- The end of a multipart message holds no delimiter. -/
theorem delimiter_not_in_end (fits : BoundaryFits boundary) :
    ¬delimiterOf boundary <:+: asciiBytes "--" ++ crlf := by
  have closing : asciiBytes "--" ++ crlf =
      asciiBytes "--" ++ 0x0d :: [0x0a] := rfl
  rw [closing,
    infix_barrier (not_mem_delimiter fits (Or.inr (Or.inl rfl))), not_or]
  refine ⟨fun inside => ?_, dashless (by decide)⟩
  have longer := inside.length_le
  have positive := List.length_pos_iff.mpr fits.present
  unfold delimiterOf at longer
  rw [List.length_append] at longer
  omega

end

/-- The text of a part in front of its filename and behind it, with the headers
around them, and the content of the file. -/
structure Attachment where
  lead : Bytes
  filename : Bytes
  trail : Bytes
  content : Bytes
deriving DecidableEq, Repr

namespace Attachment

variable (attachment : Attachment)

def head : Bytes :=
  (crlf ++ (attachment.lead ++ asciiBytes "filename=")) ++
    0x22 :: (attachment.filename ++ 0x22 :: attachment.trail)

def part : Bytes :=
  attachment.head ++ (headerEnd ++ (attachment.content ++ crlf))

/-- A part with a Content-Disposition header that has the first filename, and no
header for an encoding.  No delimiter stands in its headers, unless the filename
has one, and none begins a line of the content. -/
structure Wellformed (delimiter : Bytes) : Prop where
  disposition : asciiBytes "Content-Disposition:" <:+: attachment.lead
  filenameFirst : FirstIn (asciiBytes "filename=") (crlf ++ attachment.lead)
  oneHeader : FirstIn headerEnd attachment.head
  ascii : ∀ byte ∈ attachment.filename, byte < 0x80
  filename : ∀ byte ∈ attachment.filename,
    byte ≠ 0x22 ∧ byte ≠ 0x0d ∧ byte ≠ 0x0a
  leadFree : ¬delimiter <:+: attachment.lead ++ asciiBytes "filename="
  trailFree : ¬delimiter <:+: attachment.trail
  noEncoding : ¬crlf ++ asciiBytes "content-transfer-encoding:" <:+:
    attachment.head.map lowerByte
  noDelimiter : ¬crlf ++ delimiter <:+: crlf ++ attachment.content

def file : PyStr × Bytes := (decodeLatin1 attachment.filename, attachment.content)

/-- The filename is there and holds no delimiter. -/
structure Named (delimiter : Bytes) : Prop where
  present : attachment.filename ≠ []
  free : ¬delimiter <:+: attachment.filename

/-- The content holds no delimiter, does not end in two dashes, and what the part
says about an encoding leaves it alone. -/
structure ContentKept (delimiter : Bytes) : Prop where
  free : ¬delimiter <:+: attachment.content
  dashes : ¬asciiBytes "--" <:+ attachment.content
  encoding : LeftAlone (encodingOf attachment.part) attachment.content

structure Kept (delimiter : Bytes) : Prop where
  named : attachment.Named delimiter
  content : attachment.ContentKept delimiter

variable {attachment} {boundary : Bytes}

theorem firstIn_head (fits : BoundaryFits boundary)
    (good : attachment.Wellformed (delimiterOf boundary))
    (named : attachment.Named (delimiterOf boundary)) {rest : Bytes}
    (first : FirstIn (delimiterOf boundary) rest) :
    FirstIn (delimiterOf boundary) (attachment.head ++ (headerEnd ++ rest)) := by
  have quote := not_mem_delimiter fits (Or.inl rfl)
  have carriageReturn := not_mem_delimiter fits (Or.inr (Or.inl rfl))
  have lineFeed := not_mem_delimiter fits (Or.inr (Or.inr rfl))
  have leadFree : ¬delimiterOf boundary <:+:
      crlf ++ (attachment.lead ++ asciiBytes "filename=") := by
    have lines : crlf ++ (attachment.lead ++ asciiBytes "filename=") =
        [0x0d] ++ 0x0a :: (attachment.lead ++ asciiBytes "filename=") := rfl
    rw [lines, infix_barrier lineFeed, not_or]
    exact ⟨dashless (by decide), good.leadFree⟩
  have lineEnds : ¬delimiterOf boundary <:+: [0x0a, 0x0d] :=
    dashless (by decide)
  have blank := FirstIn.behind carriageReturn good.trailFree
    (FirstIn.behind lineFeed lineEnds first)
  have whole := FirstIn.behind quote leadFree
    (FirstIn.behind quote named.free blank)
  have same : attachment.head ++ (headerEnd ++ rest) =
      (crlf ++ (attachment.lead ++ asciiBytes "filename=")) ++
        0x22 :: (attachment.filename ++ 0x22 :: (attachment.trail ++
          0x0d :: ([0x0a, 0x0d] ++ 0x0a :: rest))) := by
    unfold head headerEnd
    rw [List.append_assoc _ _ (crlf ++ crlf ++ rest), List.cons_append,
      List.append_assoc attachment.filename, List.cons_append]
    rfl
  rw [same]
  exact whole

theorem firstIn_part (fits : BoundaryFits boundary)
    (good : attachment.Wellformed (delimiterOf boundary))
    (named : attachment.Named (delimiterOf boundary))
    (free : ¬delimiterOf boundary <:+: attachment.content) :
    FirstIn (delimiterOf boundary) attachment.part := by
  have carriageReturn := not_mem_delimiter fits (Or.inr (Or.inl rfl))
  have lineFeed : FirstIn (delimiterOf boundary) ([] ++ 0x0a :: []) :=
    FirstIn.behind (not_mem_delimiter fits (Or.inr (Or.inr rfl)))
      (dashless List.not_mem_nil) firstIn_nil
  exact firstIn_head fits good named
    (FirstIn.behind carriageReturn free lineFeed)

/-! ### What is read from it -/

theorem optionallyQuoted_quoted {text : Bytes} (present : text ≠ [])
    (free : ∀ byte ∈ text, byte ≠ 0x22 ∧ byte ≠ 0x0d ∧ byte ≠ 0x0a)
    (rest : Bytes) :
    optionallyQuoted (0x22 :: (text ++ 0x22 :: rest)) = some text := by
  have value : (text ++ 0x22 :: rest).takeWhile (fun byte =>
      decide (byte ≠ 0x22 ∧ byte ≠ 0x0d ∧ byte ≠ 0x0a)) = text := by
    rw [List.takeWhile_append_of_pos
      (fun byte member => decide_eq_true (free byte member)),
      List.takeWhile_cons_of_neg (by decide), List.append_nil]
  have unquoted : optionallyQuoted (0x22 :: (text ++ 0x22 :: rest)) =
      if (text ++ 0x22 :: rest).takeWhile (fun byte =>
          decide (byte ≠ 0x22 ∧ byte ≠ 0x0d ∧ byte ≠ 0x0a)) = [] then none
      else some ((text ++ 0x22 :: rest).takeWhile fun byte =>
        decide (byte ≠ 0x22 ∧ byte ≠ 0x0d ∧ byte ≠ 0x0a)) := rfl
  rw [unquoted, value, if_neg present]

theorem extract_head (good : attachment.Wellformed (delimiterOf boundary))
    (present : attachment.filename ≠ []) (rest : Bytes) :
    ∃ mimeType, extract (attachment.head ++ (headerEnd ++ rest)) =
      some (decodeLatin1 attachment.filename,
        decodeBody (encodingOf (attachment.head ++ (headerEnd ++ rest)))
          (stripEnd rest), mimeType) := by
  have behindName : attachment.head ++ (headerEnd ++ rest) =
      (crlf ++ attachment.lead) ++ (asciiBytes "filename=" ++
        0x22 :: (attachment.filename ++ 0x22 ::
          (attachment.trail ++ (headerEnd ++ rest)))) := by
    unfold head
    rw [List.append_assoc (crlf ++ _), List.cons_append,
      List.append_assoc attachment.filename, List.cons_append,
      ← List.append_assoc crlf, List.append_assoc (crlf ++ attachment.lead)]
  have disposition : containsBytes (asciiBytes "Content-Disposition")
      (attachment.head ++ (headerEnd ++ rest)) = true := by
    rw [containsBytes_iff, behindName]
    have named : asciiBytes "Content-Disposition" <:+:
        asciiBytes "Content-Disposition:" := by decide
    exact ((named.trans good.disposition).trans
      (List.suffix_append crlf _).isInfix).trans
        (List.prefix_append _ _).isInfix
  have name : filenamePattern (attachment.head ++ (headerEnd ++ rest)) =
      some attachment.filename := by
    rw [behindName]
    exact searchBytes_first good.filenameFirst
      (optionallyQuoted_quoted present good.filename _)
  have blank : findBytes headerEnd (attachment.head ++ (headerEnd ++ rest)) =
      some attachment.head.length := good.oneHeader.find rest
  have four : headerEnd.length = 4 := rfl
  have body : (attachment.head ++ (headerEnd ++ rest)).drop
      (attachment.head.length + 4) = rest := by
    rw [← List.drop_drop, List.drop_left, ← four, List.drop_left]
  unfold extract
  rw [if_pos disposition, name, blank]
  dsimp only
  rw [body]
  exact ⟨_, rfl⟩

/-- The line end in front of the delimiter goes, and two dashes in front of it as
well. -/
theorem stripEnd_crlf (content : Bytes) :
    stripEnd (content ++ crlf) =
      if asciiBytes "--" <:+ content then content.take (content.length - 2)
      else content := by
  have length : (content ++ crlf).length = content.length + 2 :=
    List.length_append
  have closing : asciiBytes "--" ++ crlf <:+ content ++ crlf ↔
      asciiBytes "--" <:+ content := List.suffix_append_self_iff
  have noDashes : ¬asciiBytes "--" <:+ content ++ crlf := by
    have last := @List.suffix_append_inj_of_length_eq UInt8 [] content
      (asciiBytes "--") crlf rfl
    rw [List.nil_append] at last
    rw [last]
    exact fun both => absurd both.2 (by decide)
  have lineEnd : crlf <:+ content ++ crlf := List.suffix_append content crlf
  have cut (count : Nat) : (content ++ crlf).take
      ((content ++ crlf).length - (count + 2)) =
        content.take (content.length - count) := by
    rw [length, List.take_append_of_le_length (by omega)]
    congr 1
    omega
  unfold stripEnd
  by_cases dashes : asciiBytes "--" <:+ content
  · rw [if_pos (List.isSuffixOf_iff_suffix.mpr (closing.mpr dashes)),
      if_pos dashes]
    exact cut 2
  · rw [if_neg fun both => dashes
        (closing.mp (List.isSuffixOf_iff_suffix.mp both)),
      if_neg fun ends => noDashes (List.isSuffixOf_iff_suffix.mp ends),
      if_pos (List.isSuffixOf_iff_suffix.mpr lineEnd), if_neg dashes]
    exact (cut 0).trans List.take_length

/-- A part with a free content yields its file exactly where the content is
kept. -/
theorem extract_part (good : attachment.Wellformed (delimiterOf boundary))
    (present : attachment.filename ≠ [])
    (free : ¬delimiterOf boundary <:+: attachment.content) :
    ∃ body mimeType, extract attachment.part =
        some (decodeLatin1 attachment.filename, body, mimeType) ∧
      (body = attachment.content ↔
        attachment.ContentKept (delimiterOf boundary)) := by
  obtain ⟨mimeType, extracted⟩ :=
    extract_head good present (attachment.content ++ crlf)
  refine ⟨_, mimeType, extracted, ?_⟩
  rw [stripEnd_crlf]
  split
  · rename_i dashes
    have within := dashes.length_le
    have two : (asciiBytes "--").length = 2 := rfl
    have shorter := decodeBody_length
      (encodingOf (attachment.head ++ (headerEnd ++
        (attachment.content ++ crlf))))
      (attachment.content.take (attachment.content.length - 2))
    rw [List.length_take] at shorter
    constructor
    · intro same
      rw [same] at shorter
      omega
    · exact fun kept => absurd dashes kept.dashes
  · rename_i noDashes
    exact decodeBody_eq_self_iff.trans
      ⟨fun alone => ⟨free, noDashes, alone⟩, ContentKept.encoding⟩

/-- Where a delimiter stands in the content, what is found is shorter. -/
theorem extract_torn (good : attachment.Wellformed (delimiterOf boundary))
    (present : attachment.filename ≠ []) {front behind : Bytes}
    (torn : attachment.content = front ++ (delimiterOf boundary ++ behind)) :
    ∃ body mimeType, extract (attachment.head ++ (headerEnd ++ front)) =
        some (decodeLatin1 attachment.filename, body, mimeType) ∧
      body ≠ attachment.content := by
  obtain ⟨mimeType, extracted⟩ := extract_head good present front
  refine ⟨_, mimeType, extracted, ?_⟩
  intro same
  have decoded := decodeBody_length
    (encodingOf (attachment.head ++ (headerEnd ++ front))) (stripEnd front)
  have stripped := stripEnd_length front
  have positive := List.length_pos_iff.mpr (@delimiter_ne_nil boundary)
  rw [same, torn, List.length_append, List.length_append] at decoded
  omega

end Attachment

/-! ### All parts -/

/-- The parts, each with the delimiter that closes it, and the end of the
message. -/
def sections (boundary : Bytes) : List Attachment → Bytes
  | [] => asciiBytes "--" ++ crlf
  | attachment :: rest =>
      attachment.part ++ (delimiterOf boundary ++ sections boundary rest)

/-- A result without its MIME type. -/
def nameAndContent (result : PyStr × Bytes × PyStr) : PyStr × Bytes :=
  (result.1, result.2.1)

def filesIn (boundary buf : Bytes) : List (PyStr × Bytes) :=
  ((splitBytes (delimiterOf boundary) buf).filterMap extract).map nameAndContent

section

variable {boundary : Bytes}

theorem filesIn_first {front : Bytes}
    (first : FirstIn (delimiterOf boundary) front) (rest : Bytes)
    {filename mimeType : PyStr} {body : Bytes}
    (extracted : extract front = some (filename, body, mimeType)) :
    filesIn boundary (front ++ (delimiterOf boundary ++ rest)) =
      (filename, body) :: filesIn boundary rest := by
  unfold filesIn
  rw [splitBytes_first delimiter_ne_nil first,
    List.filterMap_cons_some extracted, List.map_cons]
  rfl

theorem filesIn_end (fits : BoundaryFits boundary) :
    filesIn boundary (asciiBytes "--" ++ crlf) = [] := by
  unfold filesIn
  rw [splitBytes_alone (delimiter_not_in_end fits)]
  rfl

theorem decodeLatin1_injective : Function.Injective decodeLatin1 := by
  have back : ∀ byte : UInt8, (Char.ofNat byte.toNat).toNat = byte.toNat := by
    apply forall_byte
    decide +kernel
  refine List.map_injective_iff.mpr fun byte other same => ?_
  have values := congrArg Char.toNat same
  rw [back, back] at values
  exact UInt8.toNat_inj.mp values

theorem named_of_file {buf content : Bytes} {attachment : Attachment}
    (member : (decodeLatin1 attachment.filename, content) ∈
      filesIn boundary buf) : attachment.Named (delimiterOf boundary) := by
  obtain ⟨⟨filename, body, mimeType⟩, found, same⟩ := List.mem_map.mp member
  obtain ⟨piece, present, extracted⟩ := List.mem_filterMap.mp found
  have free := splitBytes_free delimiter_ne_nil present
  obtain ⟨name, isName, some_name, origin⟩ := extract_filename extracted
  have ofName : attachment.filename = name := by
    rw [Prod.mk.injEq, isName] at same
    exact (decodeLatin1_injective same.1).symm
  rw [← ofName] at some_name origin
  refine ⟨some_name, fun holds => ?_⟩
  rcases origin with inside | attached
  · exact free (holds.trans inside)
  · rw [attached] at holds
    exact dashless (by decide) holds

/-- The files are the attachments exactly where the contents are kept. -/
theorem filesIn_sections_iff (fits : BoundaryFits boundary)
    {attachments : List Attachment}
    (good : ∀ attachment ∈ attachments,
      attachment.Wellformed (delimiterOf boundary))
    (named : ∀ attachment ∈ attachments,
      attachment.Named (delimiterOf boundary)) :
    filesIn boundary (sections boundary attachments) =
        attachments.map Attachment.file ↔
      ∀ attachment ∈ attachments,
        attachment.ContentKept (delimiterOf boundary) := by
  induction attachments with
  | nil => exact iff_of_true (filesIn_end fits) (List.forall_mem_nil _)
  | cons attachment rest ih =>
      rw [List.forall_mem_cons] at good named
      have parts : sections boundary (attachment :: rest) = attachment.part ++
          (delimiterOf boundary ++ sections boundary rest) := rfl
      have file : attachment.file =
          (decodeLatin1 attachment.filename, attachment.content) := rfl
      rw [List.map_cons, List.forall_mem_cons, ← ih good.2 named.2, parts, file]
      by_cases free : ¬delimiterOf boundary <:+: attachment.content
      · obtain ⟨body, mimeType, extracted, kept⟩ :=
          Attachment.extract_part good.1 named.1.present free
        have first := Attachment.firstIn_part fits good.1 named.1 free
        rw [filesIn_first first _ extracted, List.cons.injEq, ← kept,
          Prod.mk.injEq, eq_self_iff_true, true_and]
      · obtain ⟨front, behind, torn, firstFront⟩ :=
          exists_firstIn (not_not.mp free)
        obtain ⟨body, mimeType, extracted, shorter⟩ :=
          Attachment.extract_torn good.1 named.1.present torn
        have first := Attachment.firstIn_head fits good.1 named.1 firstFront
        have whole : attachment.part ++
            (delimiterOf boundary ++ sections boundary rest) =
              (attachment.head ++ (headerEnd ++ front)) ++
                (delimiterOf boundary ++ ((behind ++ crlf) ++
                  (delimiterOf boundary ++ sections boundary rest))) := by
          unfold Attachment.part
          rw [torn]
          simp only [List.append_assoc]
        rw [whole, filesIn_first first _ extracted, List.cons.injEq,
          Prod.mk.injEq]
        exact iff_of_false (fun same => shorter same.1.2)
          (fun kept => free kept.1.free)

end

/-! ### Messages -/

/-- A multipart message: what stands in front of the boundary in its header,
the boundary, and what stands between it and the first delimiter. -/
structure MultipartMessage where
  front : Bytes
  boundary : Bytes
  between : Bytes
  attachments : List Attachment

namespace MultipartMessage

variable (message : MultipartMessage)

def preamble : Bytes :=
  message.front ++ (asciiBytes "boundary=" ++
    0x22 :: (message.boundary ++ 0x22 :: message.between))

def bytes : Bytes :=
  message.preamble ++ (delimiterOf message.boundary ++
    sections message.boundary message.attachments)

structure Wellformed : Prop where
  boundary : BoundaryFits message.boundary
  front : FirstIn (asciiBytes "boundary=") message.front
  preamble : FirstIn (delimiterOf message.boundary) message.preamble
  attachments : ∀ attachment ∈ message.attachments,
    attachment.Wellformed (delimiterOf message.boundary)

variable {message}

theorem parse_bytes (good : message.Wellformed) :
    (parse message.bytes).map nameAndContent =
      filesIn message.boundary
        (sections message.boundary message.attachments) := by
  have boundary : boundaryPattern message.bytes = some message.boundary := by
    unfold bytes preamble
    rw [List.append_assoc, List.append_assoc, List.cons_append,
      List.append_assoc message.boundary, List.cons_append]
    exact searchBytes_first good.front (Attachment.optionallyQuoted_quoted
      good.boundary.present good.boundary.free _)
  unfold parse
  rw [boundary]
  dsimp only
  have split : splitBytes (asciiBytes "--" ++ message.boundary) message.bytes =
      message.preamble :: splitBytes (delimiterOf message.boundary)
        (sections message.boundary message.attachments) :=
    splitBytes_first delimiter_ne_nil good.preamble _
  rw [split, List.tail_cons]
  rfl

/-- The files are exactly the attachments where every attachment is kept. -/
theorem mime_attachments_iff (good : message.Wellformed) :
    (parse message.bytes).map nameAndContent =
        message.attachments.map Attachment.file ↔
      ∀ attachment ∈ message.attachments,
        attachment.Kept (delimiterOf message.boundary) := by
  rw [parse_bytes good]
  constructor
  · intro files
    have named : ∀ attachment ∈ message.attachments,
        attachment.Named (delimiterOf message.boundary) := by
      intro attachment member
      have present := List.mem_map_of_mem (f := Attachment.file) member
      rw [← files] at present
      exact named_of_file present
    have kept := (filesIn_sections_iff good.boundary good.attachments
      named).mp files
    exact fun attachment member =>
      ⟨named attachment member, kept attachment member⟩
  · intro kept
    exact (filesIn_sections_iff good.boundary good.attachments
      fun attachment member => (kept attachment member).named).mpr
        fun attachment member => (kept attachment member).content

/-- A part with a Content-Disposition header and no other. -/
def attachmentOf (filename content : Bytes) : Attachment :=
  { lead := asciiBytes "Content-Disposition: attachment; ", filename
    trail := [], content }

def mixed (attachments : List Attachment) : MultipartMessage :=
  { front := asciiBytes "Content-Type: multipart/mixed; "
    boundary := asciiBytes "x1", between := headerEnd, attachments }

/-- Two files, of which the first has line ends and a word of the headers. -/
def twoFiles : MultipartMessage :=
  mixed [attachmentOf (asciiBytes "a") (crlf ++ asciiBytes "filename=" ++ crlf),
    attachmentOf (asciiBytes "b.c") [0, 0xff]]

def dashedFile : MultipartMessage :=
  mixed [attachmentOf (asciiBytes "a") (asciiBytes "text--")]

theorem mixed_wellformed {attachments : List Attachment}
    (each : ∀ attachment ∈ attachments,
      attachment.Wellformed (delimiterOf (asciiBytes "x1"))) :
    (mixed attachments).Wellformed := by
  have boundary : BoundaryFits (asciiBytes "x1") :=
    ⟨by decide, by decide +kernel⟩
  have front : FirstIn (asciiBytes "boundary=") (mixed []).front := by
    decide +kernel
  have preamble : FirstIn (delimiterOf (asciiBytes "x1")) (mixed []).preamble :=
    by decide +kernel
  exact ⟨boundary, front, preamble, each⟩

theorem mime_attachments_two :
    (parse twoFiles.bytes).map nameAndContent =
      [("a".toList, crlf ++ asciiBytes "filename=" ++ crlf),
        ("b.c".toList, [0, 0xff])] := by
  have good : twoFiles.Wellformed := mixed_wellformed <| by
    rw [List.forall_mem_cons, List.forall_mem_singleton]
    constructor <;> constructor <;> decide +kernel
  refine (mime_attachments_iff good).mpr ?_
  unfold twoFiles mixed
  rw [List.forall_mem_cons, List.forall_mem_singleton]
  refine ⟨⟨⟨?_, ?_⟩, ?_, ?_, leftAlone_other ?_ ?_⟩,
    ⟨?_, ?_⟩, ?_, ?_, leftAlone_other ?_ ?_⟩ <;> decide +kernel

/-- The dashes are taken for the end of the message. -/
theorem dashedFile_not_kept :
    ¬∀ message : MultipartMessage, message.Wellformed →
      (parse message.bytes).map nameAndContent =
        message.attachments.map Attachment.file := by
  intro claimed
  have good : dashedFile.Wellformed := mixed_wellformed <| by
    rw [List.forall_mem_singleton]
    constructor <;> decide +kernel
  have read : (parse dashedFile.bytes).map nameAndContent =
      [("a".toList, asciiBytes "text")] := by
    decide +kernel
  have files := claimed dashedFile good
  rw [read] at files
  revert files
  decide +kernel

end MultipartMessage

end DpktNg.Carving
