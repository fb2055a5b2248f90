/-
The FTP control channel, dpkt/ftp.py: commands, replies, and the parser that is
fed the stream.

Replies as RFC 959 writes them, on one line or on several: the parser finds them
as they were sent where the lines between the first and the last are blank or
start like the first line of a reply, and nowhere else.
-/

import DpktNg.Python.Lines
import DpktNg.Python.Struct

namespace DpktNg.Ftp

open Library

structure FTPCommand where
  raw : Bytes
  verb : Bytes
  args : Bytes
  deriving DecidableEq

def FTPCommand.parse (raw : Bytes) : FTPCommand :=
  { raw := raw, verb := (verbAndRest raw).1, args := (verbAndRest raw).2 }

structure ReplyLine where
  line : Bytes
  coded : startsWithCode (rstripLine line)

structure FTPReply where
  lines : List Bytes
  code : Nat
  text : Bytes
  isMultiLine : Bool
  deriving DecidableEq

/-- What a line adds to the text of a reply. -/
def replyText (code : Nat) (line : Bytes) : Bytes :=
  let stripped := rstripLine line
  if stripped.length ≥ 4 ∧ stripped.take 3 = decimalBytes code then
    stripped.drop 4
  else stripped

def FTPReply.parse (lines : List ReplyLine) : FTPReply :=
  match lines with
  | [] => { lines := [], code := 0, text := [], isMultiLine := false }
  | head :: _ =>
      let first := rstripLine head.line
      let code := intOfDigits (first.take 3)
      { lines := lines.map ReplyLine.line
        code := code
        text := joinLines (lines.map fun line => replyText code line.line)
        isMultiLine := first.length > 3 ∧ cut first 3 4 = asciiBytes "-" }

/-- The attributes of `FTPControlParser` besides its buffer. -/
structure ControlState where
  commands : List FTPCommand
  replies : List FTPReply
  pendingReplyLines : List ReplyLine

namespace FTPControlParser

def closeReply (state : ControlState) (pending : List ReplyLine) :
    ControlState :=
  { state with
    replies := state.replies ++ [FTPReply.parse pending]
    pendingReplyLines := [] }

def dispatchLine (state : ControlState) (line : Bytes) : ControlState :=
  let stripped := rstripLine line
  if stripped = [] then state
  else if coded : startsWithCode stripped then
    let pending := state.pendingReplyLines ++ [⟨line, coded⟩]
    if stripped.length > 3 ∧ cut stripped 3 4 = asciiBytes " " then
      closeReply state pending
    else if stripped.length = 3 ∨
        (stripped.length > 3 ∧ cut stripped 3 4 ≠ asciiBytes "-") then
      closeReply state pending
    else { state with pendingReplyLines := pending }
  else { state with commands := state.commands ++ [FTPCommand.parse line] }

end FTPControlParser

/-- The loop of `_process_buffer` around `_dispatch_line`. -/
def ftpFeeder : Feeder ControlState UInt8 :=
  lineFeeder FTPControlParser.dispatchLine

abbrev FTPControlParser := Fed ControlState UInt8

namespace FTPControlParser

def fresh : FTPControlParser :=
  { state := { commands := [], replies := [], pendingReplyLines := [] }
    buffer := [] }

def feed (parser : FTPControlParser) (data : Bytes) : FTPControlParser :=
  ftpFeeder.feed parser data

def feedAll (parser : FTPControlParser) (chunks : List Bytes) :
    FTPControlParser :=
  chunks.foldl feed parser

theorem feedAll_eq_feed {stream : Bytes} (chunks : Cutting stream) :
    fresh.feedAll chunks.pieces = fresh.feed stream :=
  Feeder.feedAll_eq_feed _ chunks

end FTPControlParser

/-- The three digits of a reply. -/
structure ReplyCode where
  digits : Bytes
  three : digits.length = 3
  isDigits : isDigits digits = true

structure LineText where
  bytes : Bytes
  isLine : IsLine (bytes ++ crlf)

/-- `ddd text`, or `ddd-text`, with its line end. -/
def ReplyCode.line (code : ReplyCode) (sep : UInt8) (text : LineText) : Bytes :=
  code.digits ++ sep :: (text.bytes ++ crlf)

/-- A reply with the text of its last line, and of the lines in front of that,
where it has several. -/
structure SentReply where
  code : ReplyCode
  front : Option (LineText × List LineText)
  text : LineText
  /-- The lines between do not end the reply. -/
  goesOn : ∀ opening ∈ front, ∀ between ∈ opening.2,
    ¬(code.digits ++ asciiBytes " ") <+: between.bytes

namespace SentReply

/-- The lines between the first and the last. -/
def between (reply : SentReply) : List Bytes :=
  match reply.front with
  | none => []
  | some opening => opening.2.map fun text => text.bytes ++ crlf

def lines (reply : SentReply) : List Bytes :=
  match reply.front with
  | none => [reply.code.line 0x20 reply.text]
  | some opening =>
      reply.code.line 0x2d opening.1 ::
        (reply.between ++ [reply.code.line 0x20 reply.text])

def bytes (reply : SentReply) : Bytes := reply.lines.flatten

end SentReply

/-- A line that is blank, or starts with three digits and `-`. -/
def Quiet (line : Bytes) : Prop :=
  rstripLine line = [] ∨
    (startsWithCode (rstripLine line) = true ∧
      cut (rstripLine line) 3 4 = asciiBytes "-")

instance (line : Bytes) : Decidable (Quiet line) :=
  inferInstanceAs (Decidable (_ ∨ _))

/-! ### What a line does -/

namespace FTPControlParser

def total (state : ControlState) : Nat :=
  state.commands.length + state.replies.length

theorem cut_length_three {stripped : Bytes} {sep : UInt8}
    (found : cut stripped 3 4 = [sep]) : stripped.length > 3 := by
  have lengths := congrArg List.length found
  unfold cut at lengths
  rw [List.length_take, List.length_drop, List.length_singleton] at lengths
  omega

/-- A line ends the reply, or not, by what stands behind its code. -/
theorem dispatchLine_coded {line : Bytes}
    (coded : startsWithCode (rstripLine line) = true) (state : ControlState) :
    dispatchLine state line =
      if cut (rstripLine line) 3 4 = asciiBytes "-" then
        { state with
          pendingReplyLines := state.pendingReplyLines ++ [⟨line, coded⟩] }
      else closeReply state (state.pendingReplyLines ++ [⟨line, coded⟩]) := by
  have three : (rstripLine line).length ≥ 3 := (of_decide_eq_true coded).1
  have present : rstripLine line ≠ [] := by
    intro blank
    rw [blank] at three
    exact absurd three (by decide)
  unfold dispatchLine
  dsimp only
  rw [if_neg present, dif_pos coded]
  by_cases dash : cut (rstripLine line) 3 4 = asciiBytes "-"
  · have longer := cut_length_three dash
    rw [if_pos dash, dash, if_neg (fun both => absurd both.2 (by decide)),
      if_neg]
    rintro (exact3 | ⟨_longer, other⟩)
    · omega
    · exact other rfl
  · rw [if_neg dash]
    by_cases space : (rstripLine line).length > 3 ∧
        cut (rstripLine line) 3 4 = asciiBytes " "
    · rw [if_pos space]
    · rw [if_neg space, if_pos]
      by_cases exact3 : (rstripLine line).length = 3
      · exact Or.inl exact3
      · exact Or.inr ⟨by omega, dash⟩

/-- What a quiet line does: it waits for the reply, or is nothing. -/
theorem dispatchLine_quiet {line : Bytes} (quiet : Quiet line)
    (state : ControlState) :
    ∃ more, dispatchLine state line =
      { state with pendingReplyLines := state.pendingReplyLines ++ more } := by
  rcases quiet with blank | ⟨coded, dash⟩
  · refine ⟨[], ?_⟩
    unfold dispatchLine
    dsimp only
    rw [if_pos blank, List.append_nil]
  · refine ⟨[⟨line, coded⟩], ?_⟩
    rw [dispatchLine_coded coded, if_pos dash]

theorem total_dispatchLine (state : ControlState) (line : Bytes) :
    total (dispatchLine state line) =
      total state + if Quiet line then 0 else 1 := by
  by_cases quiet : Quiet line
  · obtain ⟨more, dispatched⟩ := dispatchLine_quiet quiet state
    rw [if_pos quiet, dispatched]
    rfl
  · have loud := not_or.mp quiet
    rw [if_neg quiet]
    by_cases coded : startsWithCode (rstripLine line) = true
    · rw [dispatchLine_coded coded, if_neg fun dash => loud.2 ⟨coded, dash⟩]
      unfold total closeReply
      rw [List.length_append, List.length_singleton, Nat.add_assoc]
    · unfold dispatchLine
      dsimp only
      rw [if_neg loud.1, dif_neg coded]
      unfold total
      dsimp only
      rw [List.length_append, List.length_singleton]
      omega

theorem total_run (lines : List Bytes) (state : ControlState) :
    total (lines.foldl dispatchLine state) =
      total state + lines.countP fun line => ¬Quiet line := by
  induction lines generalizing state with
  | nil => rfl
  | cons line rest ih =>
      rw [List.foldl_cons, ih, total_dispatchLine, List.countP_cons]
      by_cases quiet : Quiet line
      · rw [if_pos quiet, if_neg (by simpa using quiet)]
        omega
      · rw [if_neg quiet, if_pos (by simpa using quiet)]
        omega

end FTPControlParser

/-! ### The lines of a reply -/

theorem isLineEnd_sep {sep : UInt8} (isSep : sep = 0x20 ∨ sep = 0x2d) :
    isLineEnd sep = false := by
  rcases isSep with rfl | rfl <;> rfl

theorem ReplyCode.rstripLine_line (code : ReplyCode) {sep : UInt8}
    (isSep : sep = 0x20 ∨ sep = 0x2d) (text : LineText) :
    rstripLine (code.line sep text) =
      code.digits ++ sep :: rstripLine text.bytes := by
  unfold ReplyCode.line
  rw [rstripLine_solid (isLineEnd_sep isSep), rstripLine_crlf]

theorem ReplyCode.line_coded (code : ReplyCode) {sep : UInt8}
    (isSep : sep = 0x20 ∨ sep = 0x2d) (text : LineText) :
    startsWithCode (rstripLine (code.line sep text)) = true := by
  rw [code.rstripLine_line isSep]
  unfold startsWithCode
  rw [List.take_left' code.three, code.isDigits, List.length_append, code.three]
  exact decide_eq_true ⟨by omega, rfl⟩

theorem ReplyCode.line_sep (code : ReplyCode) {sep : UInt8}
    (isSep : sep = 0x20 ∨ sep = 0x2d) (text : LineText) :
    cut (rstripLine (code.line sep text)) 3 4 = [sep] := by
  rw [code.rstripLine_line isSep]
  unfold cut
  rw [List.drop_left' code.three]
  rfl

theorem ReplyCode.line_code (code : ReplyCode) {sep : UInt8}
    (isSep : sep = 0x20 ∨ sep = 0x2d) (text : LineText) :
    (rstripLine (code.line sep text)).take 3 = code.digits := by
  rw [code.rstripLine_line isSep, List.take_left' code.three]

theorem ReplyCode.isLine_line (code : ReplyCode) {sep : UInt8}
    (isSep : sep = 0x20 ∨ sep = 0x2d) (text : LineText) :
    IsLine (code.line sep text) := by
  have other : sep ≠ 0x0d := by rcases isSep with rfl | rfl <;> decide
  exact (text.isLine.cons other).append (isDigits_free code.isDigits (by decide))

theorem SentReply.isLine_lines (reply : SentReply) :
    ∀ line ∈ reply.lines, IsLine line := by
  intro line member
  unfold SentReply.lines SentReply.between at member
  cases front : reply.front with
  | none =>
      rw [front] at member
      rw [List.mem_singleton.mp member]
      exact reply.code.isLine_line (Or.inl rfl) _
  | some opening =>
      rw [front] at member
      rcases List.mem_cons.mp member with rfl | later
      · exact reply.code.isLine_line (Or.inr rfl) _
      · rcases List.mem_append.mp later with inner | last
        · obtain ⟨text, _member, rfl⟩ := List.mem_map.mp inner
          exact text.isLine
        · rw [List.mem_singleton.mp last]
          exact reply.code.isLine_line (Or.inl rfl) _

theorem isLine_replies {replies : List SentReply} :
    ∀ line ∈ replies.flatMap SentReply.lines, IsLine line := by
  intro line member
  obtain ⟨reply, _member, inside⟩ := List.mem_flatMap.mp member
  exact reply.isLine_lines line inside

/-- The first and the last line count for one, whatever stands between. -/
theorem SentReply.loud_lines (reply : SentReply) :
    reply.lines.countP (fun line => ¬Quiet line) =
      1 + reply.between.countP fun line => ¬Quiet line := by
  have lastLoud : ¬Quiet (reply.code.line 0x20 reply.text) := by
    rintro (blank | ⟨_coded, dash⟩)
    · have coded := reply.code.line_coded (Or.inl rfl) reply.text
      rw [blank] at coded
      cases coded
    · rw [reply.code.line_sep (Or.inl rfl)] at dash
      exact absurd dash (by decide)
  have lastOne : [reply.code.line 0x20 reply.text].countP
      (fun line => ¬Quiet line) = 1 := by
    simp [lastLoud]
  unfold SentReply.lines
  cases front : reply.front with
  | none =>
      have nothing : reply.between = [] := by
        unfold SentReply.between
        rw [front]
      rw [nothing]
      exact lastOne
  | some opening =>
      have firstQuiet : Quiet (reply.code.line 0x2d opening.1) :=
        Or.inr ⟨reply.code.line_coded (Or.inr rfl) _,
          reply.code.line_sep (Or.inr rfl) _⟩
      dsimp only
      rw [List.countP_cons_of_neg (by simpa using firstQuiet),
        List.countP_append, lastOne]
      omega

theorem loud_replies (replies : List SentReply) :
    (replies.flatMap SentReply.lines).countP (fun line => ¬Quiet line) =
      replies.length +
        (replies.flatMap SentReply.between).countP fun line => ¬Quiet line := by
  induction replies with
  | nil => rfl
  | cons reply rest ih =>
      rw [List.flatMap_cons, List.countP_append, ih, reply.loud_lines,
        List.flatMap_cons, List.countP_append, List.length_cons]
      omega

/-! ### Quiet replies -/

namespace FTPControlParser

theorem quiet_run {lines : List Bytes} (quiet : ∀ line ∈ lines, Quiet line)
    (state : ControlState) :
    ∃ more, lines.foldl dispatchLine state =
      { state with pendingReplyLines := state.pendingReplyLines ++ more } := by
  induction lines generalizing state with
  | nil => exact ⟨[], by rw [List.append_nil]; rfl⟩
  | cons line rest ih =>
      obtain ⟨more, dispatched⟩ :=
        dispatchLine_quiet (quiet line List.mem_cons_self) state
      obtain ⟨later, run⟩ :=
        ih (fun l member => quiet l (List.mem_cons_of_mem _ member))
          (dispatchLine state line)
      refine ⟨more ++ later, ?_⟩
      rw [List.foldl_cons, run, dispatched, List.append_assoc]

theorem dispatchLine_last (code : ReplyCode) (text : LineText)
    (state : ControlState) :
    dispatchLine state (code.line 0x20 text) =
      closeReply state (state.pendingReplyLines ++
        [⟨_, code.line_coded (Or.inl rfl) text⟩]) := by
  rw [dispatchLine_coded (code.line_coded (Or.inl rfl) text), if_neg]
  rw [code.line_sep (Or.inl rfl)]
  decide

theorem dispatchLine_first (code : ReplyCode) (text : LineText)
    (state : ControlState) :
    dispatchLine state (code.line 0x2d text) =
      { state with
        pendingReplyLines := state.pendingReplyLines ++
          [⟨_, code.line_coded (Or.inr rfl) text⟩] } := by
  rw [dispatchLine_coded (code.line_coded (Or.inr rfl) text), if_pos]
  exact code.line_sep (Or.inr rfl) text

/-- A reply whose inner lines are quiet is found, with its code. -/
theorem quiet_reply {reply : SentReply}
    (quiet : ∀ line ∈ reply.between, Quiet line) {state : ControlState}
    (nothing : state.pendingReplyLines = []) :
    ∃ found : FTPReply, found.code = intOfDigits reply.code.digits ∧
      reply.lines.foldl dispatchLine state =
        { state with replies := state.replies ++ [found] } := by
  have lastCode := reply.code.line_code (Or.inl rfl) reply.text
  unfold SentReply.lines
  cases front : reply.front with
  | none =>
      refine ⟨FTPReply.parse [⟨_, reply.code.line_coded (Or.inl rfl) reply.text⟩],
        congrArg intOfDigits lastCode, ?_⟩
      dsimp only
      rw [List.foldl_cons, List.foldl_nil, dispatchLine_last, nothing]
      rfl
  | some opening =>
      have firstCode := reply.code.line_code (Or.inr rfl) opening.1
      obtain ⟨more, run⟩ := quiet_run quiet
        (dispatchLine state (reply.code.line 0x2d opening.1))
      refine ⟨FTPReply.parse
        (⟨_, reply.code.line_coded (Or.inr rfl) opening.1⟩ ::
          (more ++ [⟨_, reply.code.line_coded (Or.inl rfl) reply.text⟩])),
        congrArg intOfDigits firstCode, ?_⟩
      dsimp only
      rw [List.foldl_cons, List.foldl_append, run, List.foldl_cons,
        List.foldl_nil, dispatchLine_last, dispatchLine_first, nothing]
      rfl

theorem quiet_replies {replies : List SentReply}
    (quiet : ∀ reply ∈ replies, ∀ line ∈ reply.between, Quiet line)
    {state : ControlState} (nothing : state.pendingReplyLines = []) :
    ∃ found : List FTPReply,
      found.map FTPReply.code =
        replies.map (fun reply => intOfDigits reply.code.digits) ∧
      (replies.flatMap SentReply.lines).foldl dispatchLine state =
        { state with replies := state.replies ++ found } := by
  induction replies generalizing state with
  | nil => exact ⟨[], rfl, by rw [List.append_nil]; rfl⟩
  | cons reply rest ih =>
      obtain ⟨first, firstCode, run⟩ :=
        quiet_reply (quiet reply List.mem_cons_self) nothing
      obtain ⟨found, codes, later⟩ :=
        @ih (fun r member => quiet r (List.mem_cons_of_mem _ member))
          { state with replies := state.replies ++ [first] } nothing
      refine ⟨first :: found, ?_, ?_⟩
      · rw [List.map_cons, List.map_cons, firstCode, codes]
      · rw [List.flatMap_cons, List.foldl_append, run, later,
          List.append_assoc]
        rfl

theorem feedAll_replies {replies : List SentReply}
    (chunks : Cutting (replies.map SentReply.bytes).flatten) :
    (fresh.feedAll chunks.pieces).state =
      (replies.flatMap SentReply.lines).foldl dispatchLine fresh.state := by
  have lines : (replies.map SentReply.bytes).flatten =
      (replies.flatMap SentReply.lines).flatten := by
    rw [List.flatMap_def, List.flatten_flatten, List.map_map]
    rfl
  have run := @lineFeeder_feedAll _ dispatchLine _ isLine_replies
    { pieces := chunks.pieces, joined := chunks.joined.trans lines } fresh.state
  exact congrArg Fed.state run

end FTPControlParser

open FTPControlParser

/-- The replies are found as they were sent, and no command, exactly where the
lines between are quiet. -/
theorem replies_found_iff (replies : List SentReply)
    (chunks : Cutting (replies.map SentReply.bytes).flatten) :
    ((fresh.feedAll chunks.pieces).state.commands = [] ∧
        (fresh.feedAll chunks.pieces).state.replies.map FTPReply.code =
          replies.map fun reply => intOfDigits reply.code.digits) ↔
      ∀ reply ∈ replies, ∀ line ∈ reply.between, Quiet line := by
  rw [feedAll_replies]
  constructor
  · rintro ⟨noCommand, codes⟩ reply member line inside
    have lengths := congrArg List.length codes
    rw [List.length_map, List.length_map] at lengths
    have counted := total_run (replies.flatMap SentReply.lines) fresh.state
    have start : total fresh.state = 0 := rfl
    unfold total at counted start
    rw [noCommand, lengths, start, loud_replies, List.length_nil] at counted
    have none : (replies.flatMap SentReply.between).countP
        (fun line => ¬Quiet line) = 0 := by omega
    by_contra loud
    exact List.countP_eq_zero.mp none line
      (List.mem_flatMap.mpr ⟨reply, member, inside⟩) (decide_eq_true loud)
  · intro quiet
    obtain ⟨found, codes, run⟩ := @quiet_replies _ quiet fresh.state rfl
    rw [run]
    exact ⟨rfl, codes⟩

/-- `211-Features:`, ` MDTM`, `211 End` -/
def features : SentReply where
  code := { digits := asciiBytes "211", three := rfl, isDigits := rfl }
  front := some
    ({ bytes := asciiBytes "Features:", isLine := isLine_of_free (by decide) },
      [{ bytes := asciiBytes " MDTM", isLine := isLine_of_free (by decide) }])
  text := { bytes := asciiBytes "End", isLine := isLine_of_free (by decide) }
  goesOn := by
    intro opening isOpening between member
    rw [← Option.mem_some_iff.mp isOpening] at member
    rw [List.mem_singleton.mp member]
    decide

/-- The parser takes a line of the reply for a command. -/
theorem features_command :
    ¬∀ (replies : List SentReply)
        (chunks : Cutting (replies.map SentReply.bytes).flatten),
      (fresh.feedAll chunks.pieces).state.commands = [] ∧
        (fresh.feedAll chunks.pieces).state.replies.map FTPReply.code =
          replies.map fun reply => intOfDigits reply.code.digits := by
  intro always
  have noCommand := (always [features]
    { pieces := [([features].map SentReply.bytes).flatten]
      joined := List.flatten_singleton }).1
  rw [feedAll_replies] at noCommand
  have commands := congrArg List.length noCommand
  revert commands
  decide +kernel

end DpktNg.Ftp
