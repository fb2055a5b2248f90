/-
POP3 responses as `__bytes__` writes them: the status line, and the data lines
with a dot in front of every dot that begins one.
-/

import DpktNg.Pop3.StreamParser

namespace DpktNg.Pop3

open Library

/-- A data line with the dot that keeps it apart from the terminator. -/
def stuffed (line : Bytes) : Bytes :=
  if (asciiBytes ".").isPrefixOf line then asciiBytes "." ++ line else line

namespace POP3Response

def statusLine (self : POP3Response) : Bytes :=
  let status := if self.ok then okPrefix else errPrefix
  if self.text ≠ [] then status ++ asciiBytes " " ++ self.text else status

def toLines (self : POP3Response) : List Bytes :=
  if self.isMultiline then
    self.statusLine :: (self.lines.map stuffed ++ [terminator])
  else [self.statusLine]

def bytes (self : POP3Response) : Bytes :=
  crlf.intercalate self.toLines ++ crlf

/-- A status text that does not begin with a space, and lines only where the
response has several, all free of CR and LF. -/
structure Wellformed (response : POP3Response) : Prop where
  text : LineFree response.text
  noSpace : response.text.head? ≠ some 0x20
  lines : ∀ line ∈ response.lines, LineFree line
  single : response.isMultiline = false → response.lines = []

end POP3Response

theorem stuffed_cases (line : Bytes) :
    (∃ rest, line = 0x2e :: rest ∧ stuffed line = 0x2e :: 0x2e :: rest) ∨
      (line.head? ≠ some 0x2e ∧ stuffed line = line) := by
  unfold stuffed
  cases line with
  | nil => exact Or.inr ⟨by simp, rfl⟩
  | cons byte rest =>
      by_cases dot : byte = 0x2e
      · subst dot
        exact Or.inl ⟨rest, rfl, rfl⟩
      · refine Or.inr ⟨by simpa using dot, if_neg ?_⟩
        simpa [asciiBytes, List.isPrefixOf] using fun same => dot same.symm

theorem dataLines_stuffed (lines : List Bytes) :
    dataLines (lines.map stuffed ++ [terminator]) = lines := by
  induction lines with
  | nil => rfl
  | cons line rest ih =>
      rw [List.map_cons, List.cons_append, dataLines]
      rcases stuffed_cases line with ⟨behind, rfl, twice⟩ | ⟨other, same⟩
      · rw [twice, if_neg (by simp [terminator, asciiBytes]), ih]
        rfl
      · have notEnd : line ≠ terminator := by
          rintro rfl
          exact other rfl
        have notStuffed : (asciiBytes "..").isPrefixOf line = false := by
          cases line with
          | nil => rfl
          | cons byte behind =>
              have different : (0x2e : UInt8) ≠ byte := by
                rintro rfl
                exact other rfl
              simp [asciiBytes, List.isPrefixOf, different]
        rw [same, if_neg notEnd, ih, notStuffed]
        rfl

theorem stuffed_lineFree {line : Bytes} (free : LineFree line) :
    LineFree (stuffed line) := by
  unfold stuffed
  split
  · have dot : LineFree (asciiBytes ".") := by decide +kernel
    exact dot.append free
  · exact free

namespace POP3Response

variable {response : POP3Response}

theorem statusLine_lineFree (free : LineFree response.text) :
    LineFree response.statusLine := by
  have status : LineFree (if response.ok then okPrefix else errPrefix) := by
    cases response.ok <;> decide +kernel
  have space : LineFree (asciiBytes " ") := by decide +kernel
  unfold statusLine
  dsimp only
  split
  · exact (status.append space).append free
  · exact status

theorem toLines_lineFree (good : response.Wellformed) :
    ∀ line ∈ response.toLines, LineFree line := by
  have first := statusLine_lineFree good.text
  unfold toLines
  split
  · rw [List.forall_mem_cons, List.forall_mem_append]
    refine ⟨first, ?_, by decide +kernel⟩
    intro line member
    obtain ⟨data, among, rfl⟩ := List.mem_map.mp member
    exact stuffed_lineFree (good.lines data among)
  · rw [List.forall_mem_singleton]
    exact first

theorem toLines_eq_cons (response : POP3Response) :
    response.toLines = response.statusLine ::
      if response.isMultiline then
        response.lines.map stuffed ++ [terminator]
      else [] := by
  unfold toLines
  split <;> rfl

theorem bytes_eq_crlfLines (response : POP3Response) :
    response.bytes = crlfLines response.toLines := by
  refine intercalate_append crlf ?_
  rw [toLines_eq_cons]
  exact List.cons_ne_nil _ _

theorem status_of_text (response : POP3Response) (behind : Bytes) :
    (okPrefix.isPrefixOf (response.statusLine ++ behind) = response.ok) ∧
      (okPrefix.isPrefixOf (response.statusLine ++ behind) ∨
        errPrefix.isPrefixOf (response.statusLine ++ behind)) := by
  obtain ⟨rest, starts⟩ :
      ∃ rest, response.statusLine ++ behind =
        (if response.ok then okPrefix else errPrefix) ++ rest := by
    unfold statusLine
    dsimp only
    split
    · exact ⟨_, by rw [List.append_assoc, List.append_assoc]⟩
    · exact ⟨_, rfl⟩
  rw [starts]
  cases response.ok
  · exact ⟨rfl, Or.inr rfl⟩
  · exact ⟨rfl, Or.inl rfl⟩

/-- The text behind the status, with or without the space in front that the
longer `-ERR` leaves. -/
theorem text_of_statusLine (noSpace : response.text.head? ≠ some 0x20) :
    (let status := response.statusLine.drop 4
      if (asciiBytes " ").isPrefixOf status then status.drop 1 else status) =
        response.text := by
  have kept : (asciiBytes " ").isPrefixOf response.text = false := by
    cases text : response.text with
    | nil => rfl
    | cons byte rest =>
        have different : (0x20 : UInt8) ≠ byte := by
          rintro rfl
          exact noSpace (by rw [text]; rfl)
        simp [asciiBytes, List.isPrefixOf, different]
  unfold statusLine
  by_cases empty : response.text = []
  · rw [if_neg (not_not_intro empty), empty]
    cases response.ok <;> rfl
  · rw [if_pos empty]
    cases response.ok
    · rfl
    · change (if (asciiBytes " ").isPrefixOf response.text then _ else _) = _
      rw [kept]
      rfl

end POP3Response

/-- What `__bytes__` writes is read as the response it came from. -/
theorem pop3_response_round_trip {response : POP3Response}
    (good : response.Wellformed) :
    POP3Response.parse response.bytes = response := by
  have free := POP3Response.toLines_lineFree good
  have lines := POP3Response.toLines_eq_cons response
  have present : response.toLines ≠ [] := by
    rw [lines]
    exact List.cons_ne_nil _ _
  have text : dropLineFeed (replaceCrlf response.bytes) =
      joinLines response.toLines := by
    rw [response.bytes_eq_crlfLines, dropLineFeed_crlfLines free]
  obtain ⟨behind, starts⟩ := prefix_joinLines response.statusLine
    (if response.isMultiline then response.lines.map stuffed ++ [terminator]
      else [])
  rw [← lines] at starts
  have status := response.status_of_text behind
  rw [starts] at status
  unfold POP3Response.parse
  dsimp only
  rw [text, if_pos status.2, status.1, splitOn_joinLines free present, lines,
    List.headD_cons, List.tail_cons]
  have data := good.single
  obtain ⟨ok, statusText, dataOf, isMultiline⟩ := response
  have read := POP3Response.text_of_statusLine good.noSpace
  dsimp only at data read ⊢
  rw [read]
  cases isMultiline with
  | false =>
      rw [data rfl]
      rfl
  | true =>
      rw [if_pos rfl, dataLines_stuffed]
      congr 1
      simp

/-- Lines that look like the terminator, or begin with dots. -/
theorem listing_read_back :
    POP3Response.parse
      (POP3Response.bytes
        { ok := true
          text := asciiBytes "2 messages"
          lines := ["", ".", "..", ".a", "-ERR"].map asciiBytes
          isMultiline := true }) =
      { ok := true
        text := asciiBytes "2 messages"
        lines := ["", ".", "..", ".a", "-ERR"].map asciiBytes
        isMultiline := true } :=
  pop3_response_round_trip
    { text := by decide +kernel
      noSpace := by decide +kernel
      lines := by decide +kernel
      single := nofun }

end DpktNg.Pop3
