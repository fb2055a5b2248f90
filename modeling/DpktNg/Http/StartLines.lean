/-
Start lines.  A start line that was parsed is printed as one line of ASCII
text, and this line is parsed to the same fields.
-/

import DpktNg.Http.HeaderLines

namespace DpktNg.Http

open Library

/-- The printed start line is one line, and it is read as it was. -/
structure Reread (kind : MessageClass) (start : StartLine) : Prop where
  line : ∃ text, start.text = text ++ ['\r', '\n'] ∧ IsAscii text ∧
    '\n' ∉ text
  parsed : kind.startLine (start.text.map asciiByte) = .ok start

structure IsAsciiWord (w : PyStr) : Prop where
  word : IsWord isStrSpace w
  ascii : IsAscii w

theorem lineEnd_blank : ∀ c ∈ ['\r', '\n'], isStrSpace c = true := by
  rw [List.forall_mem_cons, List.forall_mem_singleton]
  decide

theorem join_plain {xs ys : PyStr} (first : IsAscii xs ∧ '\n' ∉ xs)
    (second : IsAscii ys ∧ '\n' ∉ ys) :
    IsAscii (xs ++ ' ' :: ys) ∧ '\n' ∉ xs ++ ' ' :: ys := by
  have blankAscii : (' ' : Char).toNat < 0x80 := by decide
  have blankInner : '\n' ≠ ' ' := by decide
  refine ⟨first.1.append (List.forall_mem_cons.mpr ⟨blankAscii, second.1⟩), ?_⟩
  rw [List.mem_append, List.mem_cons]
  rintro (inFirst | isBlank | inSecond)
  · exact first.2 inFirst
  · exact blankInner isBlank
  · exact second.2 inSecond

namespace IsAsciiWord

theorem oneLine {w : PyStr} (isWord : IsAsciiWord w) : '\n' ∉ w := by
  intro member
  have free := isWord.word.free '\n' member
  revert free
  decide

theorem solidFront {w : PyStr} (isWord : IsAsciiWord w) :
    SolidFront isLineSpace w := by
  intro c first
  have member := List.mem_of_mem_head? first
  exact isLineSpace_of_word (isWord.ascii c member)
    (isWord.word.free c member)

theorem solidBack {w : PyStr} (isWord : IsAsciiWord w) :
    SolidBack isLineSpace w := by
  intro c last
  have member := List.mem_of_mem_getLast? last
  exact isLineSpace_of_word (isWord.ascii c member)
    (isWord.word.free c member)

theorem version {w : PyStr} (isWord : IsAsciiWord w) (count : Nat) :
    IsAsciiWord (proto ++ ['/'] ++ w.drop count) := by
  have front : ∀ c ∈ proto ++ ['/'],
      isStrSpace c = false ∧ c.toNat < 0x80 := by
    unfold proto
    simp only [List.cons_append, List.nil_append]
    rw [List.forall_mem_cons, List.forall_mem_cons, List.forall_mem_cons,
      List.forall_mem_cons, List.forall_mem_singleton]
    decide
  refine ⟨⟨List.cons_ne_nil _ _, ?_⟩, ?_⟩
  · rw [List.forall_mem_append]
    refine ⟨fun c member => (front c member).1, ?_⟩
    intro c member
    exact isWord.word.free c (List.mem_of_mem_drop member)
  · unfold IsAscii
    rw [List.forall_mem_append]
    refine ⟨fun c member => (front c member).2, ?_⟩
    intro c member
    exact isWord.ascii c (List.mem_of_mem_drop member)

end IsAsciiWord

theorem proto_isPrefixOf (version : PyStr) :
    proto.isPrefixOf (proto ++ ['/'] ++ version) = true := by
  rw [List.isPrefixOf_iff_prefix, List.append_assoc]
  exact List.prefix_append _ _

theorem version_drop (version : PyStr) :
    (proto ++ ['/'] ++ version).drop (proto.length + 1) = version := by
  apply List.drop_left'
  rw [List.length_append, List.length_singleton]

/-- The fields of a request are words. -/
structure IsRequestLine (method uri version : PyStr) : Prop where
  methodWord : IsAsciiWord method
  known : method ∈ methods
  uriWord : IsAsciiWord uri
  versionWord : IsAsciiWord (proto ++ ['/'] ++ version)

theorem Request.startLine_fields {line : Bytes} {start : StartLine}
    (parsed : Request.startLine line = .ok start) :
    ∃ method uri version, start = .request method uri version ∧
      IsRequestLine method uri version := by
  unfold Request.startLine at parsed
  dsimp only at parsed
  have isWord : ∀ w ∈ splitText (stripText (decodeAscii line)),
      IsAsciiWord w := by
    intro w member
    have ascii : IsAscii (stripText (decodeAscii line)) :=
      (decodeAscii_isAscii line).subset (trim_isInfix _).subset
    exact ⟨words_isWord member, ascii.subset (words_subset member)⟩
  split at parsed
  · rename_i method uri others split
    rw [split, List.forall_mem_cons, List.forall_mem_cons] at isWord
    obtain ⟨methodWord, uriWord, othersWord⟩ := isWord
    split at parsed
    · cases parsed
    · rename_i known
      rw [not_not] at known
      split at parsed
      · rw [Except.ok.injEq] at parsed
        have old : IsAsciiWord ['0', '.', '9'] := by
          refine ⟨⟨List.cons_ne_nil _ _, ?_⟩, ?_⟩
          · rw [List.forall_mem_cons, List.forall_mem_cons,
              List.forall_mem_singleton]
            decide
          · unfold IsAscii
            rw [List.forall_mem_cons, List.forall_mem_cons,
              List.forall_mem_singleton]
            decide
        exact ⟨method, uri, _, parsed.symm, methodWord, known, uriWord,
          old.version 0⟩
      · rename_i version more
        split at parsed
        · rw [Except.ok.injEq] at parsed
          have versionWord := othersWord version (List.mem_cons_self)
          exact ⟨method, uri, _, parsed.symm, methodWord, known, uriWord,
            versionWord.version _⟩
        · cases parsed
  · cases parsed

theorem words_three {first second third : PyStr}
    (isFirst : IsAsciiWord first) (isSecond : IsAsciiWord second)
    (isThird : IsAsciiWord third) :
    words isStrSpace (first ++ ' ' :: (second ++ ' ' :: third)) =
      [first, second, third] := by
  obtain ⟨count, length⟩ : ∃ count,
      (first ++ ' ' :: (second ++ ' ' :: third)).length = count + 1 + 1 := by
    refine ⟨first.length + second.length + third.length, ?_⟩
    simp only [List.length_append, List.length_cons]
    omega
  have blank : isStrSpace ' ' = true := by decide
  unfold words
  rw [length, wordsUpTo_word isFirst.word blank,
    wordsUpTo_word isSecond.word blank, wordsUpTo_single isThird.word]

def requestLine (method uri version : PyStr) : PyStr :=
  method ++ ' ' :: (uri ++ ' ' :: (proto ++ ['/'] ++ version))

theorem requestLine_plain {method uri version : PyStr}
    (fields : IsRequestLine method uri version) :
    IsAscii (requestLine method uri version) ∧
      '\n' ∉ requestLine method uri version :=
  join_plain ⟨fields.methodWord.ascii, fields.methodWord.oneLine⟩
    (join_plain ⟨fields.uriWord.ascii, fields.uriWord.oneLine⟩
      ⟨fields.versionWord.ascii, fields.versionWord.oneLine⟩)

theorem requestLine_stripped {method uri version : PyStr}
    (fields : IsRequestLine method uri version) :
    stripText (requestLine method uri version ++ ['\r', '\n']) =
      requestLine method uri version := by
  have front := fields.methodWord.word.solidFront.append
    fields.methodWord.word.present
      (' ' :: (uri ++ ' ' :: (proto ++ ['/'] ++ version)))
  have back : SolidBack isStrSpace (requestLine method uri version) := by
    have inner := fields.versionWord.word.solidBack.append
      fields.versionWord.word.present (method ++ ' ' :: uri ++ [' '])
    unfold requestLine
    simp only [List.append_assoc, List.cons_append, List.nil_append]
      at inner ⊢
    exact inner
  exact trim_append front back
    (List.append_ne_nil_of_left_ne_nil fields.methodWord.word.present _)
    lineEnd_blank

theorem IsRequestLine.reread {method uri version : PyStr}
    (fields : IsRequestLine method uri version) :
    Reread .request (.request method uri version) := by
  have text : (StartLine.request method uri version).text =
      requestLine method uri version ++ ['\r', '\n'] := by
    unfold StartLine.text requestLine
    simp only [List.append_assoc, List.cons_append, List.nil_append]
  have plain := requestLine_plain fields
  refine ⟨⟨_, text, plain⟩, ?_⟩
  rw [MessageClass.startLine_request]
  unfold Request.startLine
  rw [text, decodeAscii_map (plain.1.append lineEnd_isAscii)]
  dsimp only
  unfold splitText
  rw [requestLine_stripped fields]
  unfold requestLine
  rw [words_three fields.methodWord fields.uriWord fields.versionWord]
  dsimp only
  rw [if_neg (not_not.mpr fields.known), if_pos (proto_isPrefixOf version),
    version_drop]

/-- The version and the status of a response are words, and the reason is what
stands behind them. -/
structure IsStatusLine (version status reason : PyStr) : Prop where
  versionWord : IsAsciiWord (proto ++ ['/'] ++ version)
  statusWord : IsAsciiWord status
  digits : isDigitText status = true
  reasonText : IsValue reason

theorem Response.startLine_fields {f : Bytes} {start : StartLine}
    (ascii : ∀ byte ∈ (readline f).1, byte < 0x80)
    (parsed : Response.startLine (readline f).1 = .ok start) :
    ∃ version status reason, start = .response version status reason ∧
      IsStatusLine version status reason := by
  have isLine := headerLine_isLine ascii
  unfold Response.startLine at parsed
  dsimp only at parsed
  rw [show decodeAscii (stripBytes (readline f).1) = headerLine f from rfl]
    at parsed
  have isAscii : ∀ w ∈ wordsUpTo isStrSpace 2 (headerLine f), IsAscii w :=
    fun w member => isLine.ascii.subset (words_subset member)
  split at parsed
  · rename_i version status others split
    rw [split, List.forall_mem_cons, List.forall_mem_cons] at isAscii
    obtain ⟨versionAscii, statusAscii, -⟩ := isAscii
    obtain ⟨versionWord, behind, inLine, -, statusFirst⟩ :=
      wordsUpTo_cons split
    obtain ⟨statusWord, rest, inBehind, -, reasonFirst⟩ :=
      wordsUpTo_cons statusFirst.symm
    split at parsed
    · cases parsed
    · rename_i accepted
      rw [not_or, not_not, not_not] at accepted
      rw [Except.ok.injEq] at parsed
      refine ⟨_, status, _, parsed.symm, ?_, ⟨statusWord, statusAscii⟩,
        accepted.2, ?_⟩
      · exact (IsAsciiWord.mk versionWord versionAscii).version _
      · split
        · exact IsValue.nil
        · obtain ⟨-, solid, suffix, -⟩ :=
            wordsUpTo_zero_cons reasonFirst.symm
          exact isLine.isValue (suffix.trans (inBehind.trans inLine)) solid
  · cases parsed

def statusHead (version status : PyStr) : PyStr :=
  proto ++ ['/'] ++ version ++ ' ' :: status

theorem statusLine_words {version status reason : PyStr}
    (fields : IsStatusLine version status reason) (present : reason ≠ []) :
    wordsUpTo isStrSpace 2 (statusHead version status ++ ' ' :: reason) =
      [proto ++ ['/'] ++ version, status, reason] := by
  have blank : isStrSpace ' ' = true := by decide
  unfold statusHead
  rw [List.append_assoc, List.cons_append,
    wordsUpTo_word fields.versionWord.word blank,
    wordsUpTo_word fields.statusWord.word blank,
    wordsUpTo_zero fields.reasonText.front present]

theorem statusHead_words {version status reason : PyStr}
    (fields : IsStatusLine version status reason) :
    wordsUpTo isStrSpace 2 (statusHead version status) =
      [proto ++ ['/'] ++ version, status] := by
  have blank : isStrSpace ' ' = true := by decide
  unfold statusHead
  rw [wordsUpTo_word fields.versionWord.word blank,
    wordsUpTo_single fields.statusWord.word]

/-- The stripped line of a response.  The blank in front of an empty reason is
stripped as well. -/
theorem statusLine_stripped {version status reason : PyStr}
    (fields : IsStatusLine version status reason) :
    stripBytes ((statusHead version status ++ ' ' :: reason ++
        ['\r', '\n']).map asciiByte) =
      (statusHead version status ++
        if reason = [] then [] else ' ' :: reason).map asciiByte := by
  have front : ∀ behind, SolidFront isLineSpace
      (statusHead version status ++ behind) := by
    intro behind
    unfold statusHead
    rw [List.append_assoc]
    exact fields.versionWord.solidFront.append
      fields.versionWord.word.present _
  have present : statusHead version status ≠ [] :=
    List.append_ne_nil_of_left_ne_nil fields.versionWord.word.present _
  by_cases empty : reason = []
  · have back : SolidBack isLineSpace (statusHead version status) := by
      have inner := fields.statusWord.solidBack.append
        fields.statusWord.word.present (proto ++ ['/'] ++ version ++ [' '])
      rw [List.append_assoc _ [' '], List.singleton_append] at inner
      exact inner
    have stripped := @stripBytes_text (statusHead version status)
      [' ', '\r', '\n']
      (by rw [← List.append_nil (statusHead version status)]; exact front [])
      back present (List.forall_mem_cons.mpr ⟨by decide, lineEnd_isLineSpace⟩)
    rw [if_pos empty, empty, List.append_nil, List.append_assoc,
      List.singleton_append, stripped]
  · have back : SolidBack isLineSpace
        (statusHead version status ++ ' ' :: reason) := by
      have inner := fields.reasonText.back.append empty
        (statusHead version status ++ [' '])
      rw [List.append_assoc, List.singleton_append] at inner
      exact inner
    rw [if_neg empty, stripBytes_text (front _) back
      (List.append_ne_nil_of_left_ne_nil present _)
      lineEnd_isLineSpace]

theorem IsStatusLine.reread {version status reason : PyStr}
    (fields : IsStatusLine version status reason) :
    Reread .response (.response version status reason) := by
  have text : (StartLine.response version status reason).text =
      statusHead version status ++ ' ' :: reason ++ ['\r', '\n'] := by
    unfold StartLine.text statusHead
    simp only [List.append_assoc, List.cons_append, List.nil_append]
  have head := join_plain
    ⟨fields.versionWord.ascii, fields.versionWord.oneLine⟩
    ⟨fields.statusWord.ascii, fields.statusWord.oneLine⟩
  have plain := join_plain head
    ⟨fields.reasonText.ascii, fields.reasonText.oneLine⟩
  change IsAscii (statusHead version status) ∧ _ at head
  change IsAscii (statusHead version status ++ ' ' :: reason) ∧ _ at plain
  have accepted : ¬(¬proto.isPrefixOf (proto ++ ['/'] ++ version) = true ∨
      ¬isDigitText status = true) := by
    rw [not_or, not_not, not_not]
    exact ⟨proto_isPrefixOf version, fields.digits⟩
  refine ⟨⟨_, text, plain⟩, ?_⟩
  rw [MessageClass.startLine_response]
  unfold Response.startLine
  dsimp only
  rw [text, statusLine_stripped fields]
  by_cases empty : reason = []
  · rw [if_pos empty, List.append_nil, decodeAscii_map head.1,
      statusHead_words fields]
    dsimp only
    rw [if_neg accepted, version_drop, empty]
  · rw [if_neg empty, decodeAscii_map plain.1, statusLine_words fields empty]
    dsimp only
    rw [if_neg accepted, version_drop]

theorem startLine_reread {kind : MessageClass} {f : Bytes} {start : StartLine}
    (ascii : ∀ byte ∈ (readline f).1, byte < 0x80)
    (parsed : kind.startLine (readline f).1 = .ok start) :
    Reread kind start := by
  cases kind with
  | request =>
      obtain ⟨method, uri, version, rfl, fields⟩ :=
        Request.startLine_fields parsed
      exact fields.reread
  | response =>
      obtain ⟨version, status, reason, rfl, fields⟩ :=
        Response.startLine_fields ascii parsed
      exact fields.reread

end DpktNg.Http
