/-
SMTP responses as `__bytes__` writes them, and how the stream gives them back.
-/

import DpktNg.Smtp.StreamParser

namespace DpktNg.Smtp

open Library

def codeBytes (code : Nat) : Bytes := (decimalBytes code).leftpad 3 0x30

/-- What tells the last line from the others. -/
def separator (last : Bool) : Bytes :=
  if last then asciiBytes " " else asciiBytes "-"

def codedLine (code : Nat) (last : Bool) (line : Bytes) : Bytes :=
  codeBytes code ++ separator last ++ line

def codedLines (code : Nat) : List Bytes → List Bytes
  | [] => []
  | line :: rest => codedLine code (rest = []) line :: codedLines code rest

namespace SMTPResponse

def bytes (self : SMTPResponse) : Bytes :=
  crlfLines (codedLines self.code self.lines)

/-- Three digits of code, and lines, which are free of CR and LF. -/
structure Wellformed (response : SMTPResponse) : Prop where
  digits : 100 ≤ response.code ∧ response.code ≤ 999
  present : response.lines ≠ []
  lines : ∀ line ∈ response.lines, LineFree line

end SMTPResponse

theorem codeBytes_eq {code : Nat} (digits : 100 ≤ code ∧ code ≤ 999) :
    codeBytes code = decimalBytes code ∧ (codeBytes code).length = 3 := by
  have length : (decimalBytes code).length = 3 := by
    have upTo (k : Nat) (positive : 0 < k) :
        (decimal code).length ≤ k ↔ code < 10 ^ k :=
      Nat.length_toDigits_le_iff (by decide) positive
    have three := (upTo 3 (by decide)).mpr (by omega)
    have two := mt (upTo 2 (by decide)).mp (by omega)
    unfold decimalBytes
    rw [List.length_map]
    omega
  have same : codeBytes code = decimalBytes code := by
    unfold codeBytes List.leftpad
    rw [length]
    rfl
  exact ⟨same, by rw [same, length]⟩

theorem codeBytes_lineFree {code : Nat} (digits : 100 ≤ code ∧ code ≤ 999) :
    LineFree (codeBytes code) := by
  rw [(codeBytes_eq digits).1]
  intro byte member
  by_contra ends
  refine isDigits_free (isDigits_decimalBytes code) ?_ member
  revert ends
  apply forall_byte (P := fun byte => ¬isLineEnd byte = false →
    ¬(0x30 ≤ byte ∧ byte ≤ 0x39))
  decide +kernel

section CodedLine

variable {code : Nat} (digits : 100 ≤ code ∧ code ≤ 999) (last : Bool)
  (line : Bytes)

include digits

theorem codedLine_take :
    (codedLine code last line).take 3 = codeBytes code := by
  unfold codedLine
  rw [List.append_assoc, ← (codeBytes_eq digits).2, List.take_left]

theorem codedLine_drop : (codedLine code last line).drop 4 = line := by
  have front : (codeBytes code ++ separator last).length = 4 := by
    rw [List.length_append, (codeBytes_eq digits).2]
    cases last <;> rfl
  unfold codedLine
  rw [← front, List.drop_left]

theorem codedLine_length :
    (codedLine code last line).length = 4 + line.length := by
  unfold codedLine
  rw [List.length_append, List.length_append, (codeBytes_eq digits).2]
  cases last <;> rfl

theorem codedLine_separator :
    cut (codedLine code last line) 3 4 = separator last := by
  unfold codedLine
  exact cut_middle (codeBytes_eq digits).2 (by cases last <;> rfl) line

theorem codedLine_startsWithCode :
    startsWithCode (codedLine code last line) = true := by
  refine decide_eq_true ⟨?_, ?_⟩
  · rw [codedLine_length digits]
    omega
  · rw [codedLine_take digits, (codeBytes_eq digits).1]
    exact isDigits_decimalBytes code

theorem laterLine_codedLine :
    laterLine code (codedLine code last line) = line := by
  have long : (codedLine code last line).length ≥ 4 := by
    rw [codedLine_length digits]
    omega
  have front : (codedLine code last line).take 4 =
      decimalBytes code ++ separator last := by
    rw [← (codeBytes_eq digits).1, ← codedLine_take digits last line,
      ← codedLine_separator digits last line]
    exact (take_append_cut (by omega)).symm
  unfold laterLine
  rw [codedLine_drop digits, front]
  cases last with
  | true => exact if_pos ⟨long, rfl⟩
  | false =>
      have other : ¬decimalBytes code ++ separator false =
          decimalBytes code ++ asciiBytes " " := by
        rw [List.append_right_inj]
        decide +kernel
      rw [if_neg fun both => other both.2]
      exact if_pos ⟨long, rfl⟩

theorem codedLine_lineFree (free : LineFree line) :
    LineFree (codedLine code last line) := by
  have separator : LineFree (separator last) := by
    cases last <;> decide +kernel
  exact ((codeBytes_lineFree digits).append separator).append free

end CodedLine

theorem codedLines_lineFree {code : Nat} (digits : 100 ≤ code ∧ code ≤ 999)
    {lines : List Bytes} (free : ∀ line ∈ lines, LineFree line) :
    ∀ line ∈ codedLines code lines, LineFree line := by
  induction lines with
  | nil => exact fun line member => absurd member List.not_mem_nil
  | cons line rest ih =>
      rw [List.forall_mem_cons] at free
      rw [codedLines, List.forall_mem_cons]
      exact ⟨codedLine_lineFree digits _ line free.1, ih free.2⟩

theorem laterLines_codedLines {code : Nat} (digits : 100 ≤ code ∧ code ≤ 999)
    (lines : List Bytes) :
    (codedLines code lines).map (laterLine code) = lines := by
  induction lines with
  | nil => rfl
  | cons line rest ih =>
      rw [codedLines, List.map_cons, laterLine_codedLine digits, ih]

theorem separator_eq_dash {last : Bool} :
    separator last = asciiBytes "-" ↔ last = false := by
  cases last <;> decide +kernel

namespace SMTPResponse

variable {response : SMTPResponse}

/-- The response that the bytes of one are read as. -/
def reread (response : SMTPResponse) : SMTPResponse :=
  { response with isMultiline := response.lines.length > 1 }

theorem parse_bytes (good : response.Wellformed) :
    parse response.bytes = response.reread := by
  obtain ⟨code, lines, isMultiline⟩ := response
  have digits := good.digits
  have present := good.present
  have free := codedLines_lineFree digits good.lines
  cases lines with
  | nil => exact absurd rfl present
  | cons line rest =>
      have read : textLines (bytes ⟨code, line :: rest, isMultiline⟩) =
          codedLine code (rest = []) line :: codedLines code rest := by
        unfold textLines bytes
        rw [dropLineFeed_crlfLines free]
        exact splitOn_joinLines free (List.cons_ne_nil _ _)
      have long := @codedLine_length code digits (rest = []) line
      have intCode : intOfDigits (codeBytes code) = code := by
        rw [(codeBytes_eq digits).1, intOfDigits_decimalBytes]
      unfold parse
      rw [read]
      dsimp only
      rw [if_pos (codedLine_startsWithCode digits _ line),
        codedLine_take digits, intCode, if_pos (by omega),
        codedLine_drop digits, laterLines_codedLines digits,
        codedLine_separator digits]
      unfold reread
      refine congrArg (SMTPResponse.mk code (line :: rest)) ?_
      rw [decide_eq_decide, separator_eq_dash, decide_eq_false_iff_not,
        ← ne_eq, ← List.length_pos_iff, List.length_cons]
      omega

end SMTPResponse

section Stream

variable {code : Nat} (digits : 100 ≤ code ∧ code ≤ 999)

include digits

/-- A line of a response is kept until the last one comes. -/
theorem processLine_codedLine {line : Bytes} (free : LineFree line)
    (last : Bool) (state : SMTPState) :
    SMTP.processLine state (codedLine code last line ++ crlf) =
      let pending := state.pendingLines ++ [codedLine code last line ++ crlf]
      if last then
        { state with
          responses := state.responses ++ [SMTPResponse.parse pending.flatten]
          pendingLines := [] }
      else { state with pendingLines := pending } := by
  have long := codedLine_length digits last line
  have present : codedLine code last line ≠ [] := by
    rw [← List.length_pos_iff]
    omega
  unfold SMTP.processLine
  rw [(codedLine_lineFree digits last line free).rstripLine]
  dsimp only
  rw [if_neg present, if_pos (codedLine_startsWithCode digits last line),
    codedLine_separator digits]
  cases last with
  | true => exact if_pos (Or.inl ⟨by omega, rfl⟩)
  | false =>
      refine if_neg ?_
      rintro (⟨_long, other⟩ | short)
      · revert other
        decide +kernel
      · omega

theorem foldl_codedLines {lines : List Bytes}
    (free : ∀ line ∈ lines, LineFree line) (present : lines ≠ [])
    (state : SMTPState) :
    ((codedLines code lines).map (· ++ crlf)).foldl SMTP.processLine state =
      { state with
        responses := state.responses ++
          [SMTPResponse.parse
            (state.pendingLines.flatten ++ crlfLines (codedLines code lines))]
        pendingLines := [] } := by
  induction lines generalizing state with
  | nil => exact absurd rfl present
  | cons line rest ih =>
      rw [List.forall_mem_cons] at free
      rw [codedLines, List.map_cons, List.foldl_cons,
        processLine_codedLine digits free.1]
      by_cases last : rest = []
      · subst last
        simp [codedLines, crlfLines]
      · rw [if_neg (by simpa using last), ih free.2 last]
        simp [crlfLines]

end Stream

theorem foldl_responses {responses : List SMTPResponse}
    (good : ∀ response ∈ responses, response.Wellformed) (state : SMTPState)
    (quiet : state.pendingLines = []) :
    (responses.flatMap fun response =>
        (codedLines response.code response.lines).map (· ++ crlf)).foldl
      SMTP.processLine state =
      { state with
        responses :=
          state.responses ++ responses.map SMTPResponse.reread } := by
  induction responses generalizing state with
  | nil =>
      rw [List.map_nil, List.append_nil]
      rfl
  | cons response rest ih =>
      rw [List.forall_mem_cons] at good
      have read := SMTPResponse.parse_bytes good.1
      rw [List.flatMap_cons, List.foldl_append,
        foldl_codedLines good.1.digits good.1.lines good.1.present, quiet,
        List.flatten_nil, List.nil_append]
      change List.foldl _ { state with
        responses := _ ++ [SMTPResponse.parse response.bytes]
        pendingLines := [] } _ = _
      rw [read, ih good.2 _ rfl, List.append_assoc, ← quiet]
      rfl

/-- Responses come out of the stream as they went in, however it is cut. -/
theorem smtp_responses_recovered {responses : List SMTPResponse}
    (good : ∀ response ∈ responses, response.Wellformed)
    (chunks : Cutting (responses.map SMTPResponse.bytes).flatten) :
    let state := (SMTP.fresh.feedAll chunks.pieces).state
    state.responses.map (fun response => (response.code, response.lines)) =
        responses.map (fun response => (response.code, response.lines)) ∧
      state.commands = [] := by
  have parted : (responses.map SMTPResponse.bytes).flatten =
      (responses.flatMap fun response =>
        (codedLines response.code response.lines).map (· ++ crlf)).flatten := by
    rw [List.flatMap_def, List.flatten_flatten, List.map_map]
    rfl
  have isLine : ∀ line ∈ responses.flatMap fun response =>
      (codedLines response.code response.lines).map (· ++ crlf),
        IsLine line := by
    intro line member
    obtain ⟨response, sent, inside⟩ := List.mem_flatMap.mp member
    obtain ⟨coded, among, rfl⟩ := List.mem_map.mp inside
    have fine := good response sent
    exact (codedLines_lineFree fine.digits fine.lines coded among).isLine
  have run : SMTP.fresh.feedAll chunks.pieces = _ :=
    lineFeeder_feedAll isLine
      { pieces := chunks.pieces, joined := chunks.joined.trans parted }
      SMTP.fresh.state
  rw [run, foldl_responses good _ rfl]
  refine ⟨?_, rfl⟩
  change List.map _ ([] ++ responses.map SMTPResponse.reread) = _
  rw [List.nil_append, List.map_map]
  rfl

def greeting : List SMTPResponse :=
  [{ code := 220, lines := [asciiBytes "ready"], isMultiline := false },
    { code := 250
      lines := ["", "250 OK", "123"].map asciiBytes
      isMultiline := true }]

/-- The stream, cut within the code and between CR and LF. -/
def cutGreeting : Cutting (greeting.map SMTPResponse.bytes).flatten where
  pieces :=
    [asciiBytes "22", asciiBytes "0 ready\r",
      asciiBytes "\n250-\r\n250-250 OK\r\n25", asciiBytes "0 123\r\n"]
  joined := by decide +kernel

theorem greeting_recovered :
    let state := (SMTP.fresh.feedAll cutGreeting.pieces).state
    state.responses.map (fun response => (response.code, response.lines)) =
        greeting.map (fun response => (response.code, response.lines)) ∧
      state.commands = [] := by
  refine smtp_responses_recovered ?_ cutGreeting
  intro response member
  rcases List.mem_cons.mp member with rfl | member
  · exact ⟨by decide, by decide, by decide +kernel⟩
  · obtain rfl := List.mem_singleton.mp member
    exact ⟨by decide, by decide, by decide +kernel⟩

end DpktNg.Smtp
