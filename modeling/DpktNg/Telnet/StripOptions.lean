/-
`strip_options` of dpkt/telnet.py, which splits a stream at the byte IAC and
looks at the first byte of each piece.
-/

import DpktNg.Library.Dict
import DpktNg.Python.Lines

namespace DpktNg.Telnet

open Library

/-! ### The code -/

def iac : UInt8 := 255

def sb : UInt8 := 250

def se : UInt8 := 240

/-- The lines of a text, of which `line` is already there of the first one. -/
def linesFrom (line : Bytes) : Bytes → List Bytes
  | [] => if line = [] then [] else [line]
  | [byte] => if isLineEnd byte then [line] else [line ++ [byte]]
  | byte :: next :: rest =>
      if byte = 0x0d ∧ next = 0x0a then line :: linesFrom [] rest
      else if isLineEnd byte then line :: linesFrom [] (next :: rest)
      else linesFrom (line ++ [byte]) (next :: rest)

def splitlines (text : Bytes) : List Bytes := linesFrom [] text

/-- `w.replace(b'\x00', b'\n').splitlines()` -/
def linesOf (w : Bytes) : List Bytes :=
  splitlines (w.map fun byte => if byte = 0 then 0x0a else byte)

/-- The lines without an empty one at the end, where there is any text. -/
def keptLines (w : Bytes) : List Bytes :=
  if w = [] then []
  else if (linesOf w).getLast? = some [] then (linesOf w).dropLast
  else linesOf w

/-- The variables `b`, `d` and `subopt`. -/
structure Stripping where
  lines : List Bytes
  options : Dict Bytes Bytes
  subopt : Bool
deriving DecidableEq

/-- `b.extend(w)` -/
def Stripping.extend (self : Stripping) (w : Bytes) : Stripping :=
  { self with lines := self.lines ++ keptLines w }

/-- The value that a subnegotiation sends for an option, if it does. -/
def setOption (w : Bytes) (options : Dict Bytes Bytes) (opt : Bytes) :
    Dict Bytes Bytes :=
  match findBytes (opt ++ [1]) w with
  | none => options
  | some p =>
      options.set opt ((splitUpTo 0 1 (w.drop (p + opt.length + 1))).headD [])

/-- The body of the loop over the pieces. -/
def stripPiece (self : Stripping) (w : Bytes) : Stripping :=
  match w with
  | [] => self
  | o :: _ =>
      if o > sb then self.extend (w.drop 2)
      else if o = se then { self with subopt := false }.extend (w.drop 1)
      else if o = sb then
        { self with
          subopt := true
          options :=
            (["USER", "DISPLAY", "TERM"].map asciiBytes).foldl (setOption w)
              self.options }
      else if self.subopt then self
      else self.extend w

def stripOptions (buf : Bytes) : List Bytes × Dict Bytes Bytes :=
  let stripped := (buf.splitOn iac).foldl stripPiece
    { lines := [], options := .empty, subopt := false }
  (stripped.lines, stripped.options)

/-! ### Lines -/

/-- A byte that is part of a line. -/
def isSolid (byte : UInt8) : Bool := byte ≠ 0 ∧ !isLineEnd byte

theorem linesFrom_flatten (line text : Bytes) :
    (linesFrom line text).flatten =
      line ++ text.filter fun byte => !isLineEnd byte := by
  fun_induction linesFrom line text with
  | case1 => rfl
  | case2 line present => simp
  | case3 line byte ends => simp [ends]
  | case4 line byte solid => simp [solid]
  | case5 line byte next rest both ih =>
      obtain ⟨rfl, rfl⟩ := both
      rw [List.flatten_cons, ih]
      rfl
  | case6 line byte next rest notBoth ends ih =>
      rw [List.filter_cons_of_neg (by simp [ends]), List.flatten_cons, ih]
      rfl
  | case7 line byte next rest notBoth solid ih =>
      rw [List.filter_cons_of_pos (by simpa using solid), ih,
        List.append_assoc]
      rfl

theorem linesOf_flatten (w : Bytes) :
    (linesOf w).flatten = w.filter isSolid := by
  unfold linesOf splitlines
  rw [linesFrom_flatten, List.nil_append]
  induction w with
  | nil => rfl
  | cons byte rest ih =>
      rw [List.map_cons]
      by_cases zero : byte = 0
      · rw [if_pos zero, List.filter_cons_of_neg (by decide), ih,
          List.filter_cons_of_neg (by simp [isSolid, zero])]
      · rw [if_neg zero]
        cases ends : isLineEnd byte with
        | true =>
            rw [List.filter_cons_of_neg (by simp [ends]), ih,
              List.filter_cons_of_neg (by simp [isSolid, ends])]
        | false =>
            rw [List.filter_cons_of_pos (by simp [ends]), ih,
              List.filter_cons_of_pos (by simp [isSolid, ends, zero])]

/-- Only an empty line is left out. -/
theorem mem_keptLines {w line : Bytes} (isLine : line ∈ linesOf w)
    (present : line ≠ []) : line ∈ keptLines w := by
  unfold keptLines
  split
  · rename_i empty
    subst empty
    exact absurd isLine List.not_mem_nil
  · split
    · rename_i last
      rw [← List.dropLast_append_getLast? _ last] at isLine
      rcases List.mem_append.mp isLine with inside | here
      · exact inside
      · exact absurd (List.mem_singleton.mp here) present
    · exact isLine

theorem keptLines_flatten (w : Bytes) :
    (keptLines w).flatten = w.filter isSolid := by
  rw [← linesOf_flatten]
  unfold keptLines
  split
  · rename_i empty
    subst empty
    rfl
  · split
    · rename_i last
      conv_rhs => rw [← List.dropLast_append_getLast? _ last]
      simp
    · rfl

/-! ### Streams -/

/-- What stands between the parts of the text. -/
inductive Command where
  | plain (c : UInt8)
  | negotiation (verb option : UInt8)
  | subnegotiation (payload : Bytes)
deriving DecidableEq

namespace Command

def Valid : Command → Prop
  | plain c => 0xf1 ≤ c ∧ c ≤ 0xf9
  | negotiation verb _ => 0xfb ≤ verb ∧ verb ≤ 0xfe
  | subnegotiation payload => iac ∉ payload

def bytes : Command → Bytes
  | plain c => [iac, c]
  | negotiation verb option => [iac, verb, option]
  | subnegotiation payload => iac :: sb :: payload ++ [iac, se]

/-- A command of two bytes. -/
def isPlain : Command → Bool
  | plain _ => true
  | _ => false

/-- What the loop takes for text. -/
def visible : Command → Bytes
  | plain c => [c]
  | _ => []

/-- The pieces of a command and the text behind it.  An option that looks like
IAC ends its piece. -/
def pieces (text : Bytes) : Command → List Bytes
  | plain c => [c :: text]
  | negotiation verb option =>
      if option = iac then [[verb], text] else [verb :: option :: text]
  | subnegotiation payload => [sb :: payload, se :: text]

end Command

/-- Text, and commands with the text behind each. -/
structure Stream where
  text : Bytes
  rest : List (Command × Bytes)
deriving DecidableEq

/-- Bytes that may stand in a text. -/
def IsText (text : Bytes) : Prop := ∀ byte ∈ text, byte < 0xf0

/-- The bytes of commands and texts. -/
def restBytes (rest : List (Command × Bytes)) : Bytes :=
  rest.flatMap fun part => part.1.bytes ++ part.2

namespace Stream

structure Valid (stream : Stream) : Prop where
  text : IsText stream.text
  rest : ∀ part ∈ stream.rest, part.1.Valid ∧ IsText part.2

def bytes (stream : Stream) : Bytes := stream.text ++ restBytes stream.rest

def texts (stream : Stream) : List Bytes :=
  stream.text :: stream.rest.map Prod.snd

end Stream

theorem IsText.iac_not_mem {text : Bytes} (isText : IsText text) :
    iac ∉ text := by
  intro member
  exact absurd (isText iac member) (by decide)

/-! ### The pieces of a stream -/

/-- The pieces behind the first text. -/
def restPieces (rest : List (Command × Bytes)) : List Bytes :=
  rest.flatMap fun part => part.1.pieces part.2

variable {rest : List (Command × Bytes)}

theorem splitOn_restBytes
    (valid : ∀ part ∈ rest, part.1.Valid ∧ IsText part.2) {front : Bytes}
    (free : iac ∉ front) :
    (front ++ restBytes rest).splitOn iac = front :: restPieces rest := by
  induction rest generalizing front with
  | nil =>
      change (front ++ []).splitOn iac = [front]
      rw [List.append_nil, List.splitOn_eq_singleton free]
  | cons part rest ih =>
      obtain ⟨command, text⟩ := part
      rw [List.forall_mem_cons] at valid
      obtain ⟨⟨validCommand, isText⟩, validRest⟩ := valid
      have inText := isText.iac_not_mem
      have split (byte : UInt8) (different : iac ≠ byte) :
          (byte :: (text ++ restBytes rest)).splitOn iac =
            (byte :: text) :: restPieces rest := by
        have free : iac ∉ byte :: text := fun member =>
          (List.mem_cons.mp member).elim different inText
        exact ih validRest free
      have same : restBytes ((command, text) :: rest) =
          command.bytes ++ (text ++ restBytes rest) := by
        unfold restBytes
        rw [List.flatMap_cons, List.append_assoc]
      have pieces : restPieces ((command, text) :: rest) =
          command.pieces text ++ restPieces rest := List.flatMap_cons
      rw [same, pieces]
      cases command with
      | plain c =>
          have different : iac ≠ c := by
            rintro rfl
            exact absurd validCommand.2 (by decide)
          change (front ++ iac :: (c :: (text ++ restBytes rest))).splitOn iac =
            _
          rw [List.splitOn_append_cons_self_of_not_mem free, split c different]
          rfl
      | negotiation verb option =>
          have different : iac ≠ verb := by
            rintro rfl
            exact absurd validCommand.2 (by decide)
          change (front ++ iac ::
            (verb :: option :: (text ++ restBytes rest))).splitOn iac = _
          rw [List.splitOn_append_cons_self_of_not_mem free]
          by_cases isIac : option = iac
          · have alone : iac ∉ [verb] := by simpa using different
            rw [show Command.pieces text (.negotiation verb option) =
              [[verb], text] from if_pos isIac, isIac]
            change front :: ([verb] ++ iac ::
              (text ++ restBytes rest)).splitOn iac = _
            rw [List.splitOn_append_cons_self_of_not_mem alone,
              ih validRest inText]
            rfl
          · have both : iac ∉ verb :: option :: text := by
              simp only [List.mem_cons, not_or]
              exact ⟨different, fun same => isIac same.symm, inText⟩
            rw [show Command.pieces text (.negotiation verb option) =
              [verb :: option :: text] from if_neg isIac]
            change front ::
              ((verb :: option :: text) ++ restBytes rest).splitOn iac = _
            rw [ih validRest both]
            rfl
      | subnegotiation payload =>
          have inside : iac ∉ sb :: payload :=
            fun member => (List.mem_cons.mp member).elim (by decide) validCommand
          have same : (front ++ (Command.bytes (.subnegotiation payload) ++
              (text ++ restBytes rest))) =
              front ++ iac :: ((sb :: payload) ++ iac ::
                (se :: (text ++ restBytes rest))) := by
            simp [Command.bytes]
          rw [same, List.splitOn_append_cons_self_of_not_mem free,
            List.splitOn_append_cons_self_of_not_mem inside,
            split se (by decide)]
          rfl

/-! ### The loop over the pieces -/

theorem branch_of_text : ∀ byte : UInt8, byte < 0xf0 →
    ¬ byte > sb ∧ byte ≠ se ∧ byte ≠ sb := by
  refine forall_byte ?_
  decide +kernel

theorem branch_of_plain : ∀ byte : UInt8, 0xf1 ≤ byte ∧ byte ≤ 0xf9 →
    ¬ byte > sb ∧ byte ≠ se ∧ byte ≠ sb ∧ isSolid byte = true ∧
      ¬ byte < 0xf0 := by
  refine forall_byte ?_
  decide +kernel

theorem branch_of_verb : ∀ byte : UInt8, 0xfb ≤ byte ∧ byte ≤ 0xfe →
    byte > sb := by
  refine forall_byte ?_
  decide +kernel

variable {state : Stripping}

/-- Text outside of a subnegotiation is kept. -/
theorem stripPiece_text {text : Bytes} (isText : IsText text)
    (outside : state.subopt = false) :
    stripPiece state text = state.extend text := by
  cases text with
  | nil =>
      change state = { state with lines := state.lines ++ [] }
      rw [List.append_nil]
  | cons o rest =>
      obtain ⟨below, notSe, notSb⟩ :=
        branch_of_text o (isText o List.mem_cons_self)
      unfold stripPiece
      dsimp only
      rw [if_neg below, if_neg notSe, if_neg notSb, if_neg (by simp [outside])]

/-- The pieces of a command and its text: what is kept of them, and nothing is
left open. -/
theorem stripPieces_command {command : Command} {text : Bytes}
    (valid : command.Valid) (isText : IsText text)
    (outside : state.subopt = false) :
    ((command.pieces text).foldl stripPiece state).lines =
        state.lines ++ keptLines (command.visible ++ text) ∧
      ((command.pieces text).foldl stripPiece state).subopt = false := by
  cases command with
  | plain c =>
      obtain ⟨below, notSe, notSb, _others⟩ := branch_of_plain c valid
      change (stripPiece state (c :: text)).lines = _ ∧
        (stripPiece state (c :: text)).subopt = false
      unfold stripPiece
      dsimp only
      rw [if_neg below, if_neg notSe, if_neg notSb, if_neg (by simp [outside])]
      exact ⟨rfl, outside⟩
  | negotiation verb option =>
      have above := branch_of_verb verb valid
      by_cases isIac : option = iac
      · rw [show Command.pieces text (.negotiation verb option) =
          [[verb], text] from if_pos isIac]
        change (stripPiece (stripPiece state [verb]) text).lines = _ ∧
          (stripPiece (stripPiece state [verb]) text).subopt = false
        have first : stripPiece state [verb] = state := by
          unfold stripPiece
          dsimp only
          rw [if_pos above]
          change { state with lines := state.lines ++ [] } = state
          rw [List.append_nil]
        rw [first, stripPiece_text isText outside]
        exact ⟨rfl, outside⟩
      · rw [show Command.pieces text (.negotiation verb option) =
          [verb :: option :: text] from if_neg isIac]
        change (stripPiece state (verb :: option :: text)).lines = _ ∧
          (stripPiece state (verb :: option :: text)).subopt = false
        unfold stripPiece
        dsimp only
        rw [if_pos above]
        exact ⟨rfl, outside⟩
  | subnegotiation payload => exact ⟨rfl, rfl⟩

theorem stripPieces_rest
    (valid : ∀ part ∈ rest, part.1.Valid ∧ IsText part.2)
    (outside : state.subopt = false) :
    ((restPieces rest).foldl stripPiece state).lines =
      state.lines ++
        rest.flatMap fun part => keptLines (part.1.visible ++ part.2) := by
  induction rest generalizing state with
  | nil => exact (List.append_nil _).symm
  | cons part rest ih =>
      rw [List.forall_mem_cons] at valid
      obtain ⟨here, later⟩ := valid
      obtain ⟨lines, closed⟩ :=
        stripPieces_command here.1 here.2 outside
      have pieces : restPieces (part :: rest) =
          part.1.pieces part.2 ++ restPieces rest := List.flatMap_cons
      rw [pieces, List.foldl_append, ih later closed, lines,
        List.flatMap_cons, List.append_assoc]

/-- The lines of every text, where the first line behind a command of two
bytes begins with the second of them. -/
theorem stripOptions_lines {stream : Stream} (valid : stream.Valid) :
    (stripOptions stream.bytes).1 =
      keptLines stream.text ++
        stream.rest.flatMap fun part =>
          keptLines (part.1.visible ++ part.2) := by
  unfold stripOptions Stream.bytes
  dsimp only
  rw [splitOn_restBytes valid.rest valid.text.iac_not_mem, List.foldl_cons,
    stripPiece_text valid.text rfl, stripPieces_rest valid.rest rfl]
  rfl

/-! ### What is kept of a stream -/

/-- The lines hold bytes of the texts only, in order, and every line of a text
that is not empty is among them. -/
structure KeepsText (stream : Stream) : Prop where
  bytes : List.Sublist (stripOptions stream.bytes).1.flatten
    stream.texts.flatten
  lines : ∀ text ∈ stream.texts, ∀ line ∈ linesOf text,
    line ≠ [] → line ∈ (stripOptions stream.bytes).1

variable {stream : Stream}

theorem stripOptions_texts (valid : stream.Valid)
    (none_plain : ∀ part ∈ stream.rest, part.1.isPlain = false) :
    (stripOptions stream.bytes).1 = stream.texts.flatMap keptLines := by
  have same : (stream.rest.flatMap fun part =>
      keptLines (part.1.visible ++ part.2)) =
      (stream.rest.map Prod.snd).flatMap keptLines := by
    rw [List.flatMap_map]
    refine List.flatMap_congr fun part member => ?_
    have notPlain := none_plain part member
    cases isCommand : part.1 with
    | plain c =>
        rw [isCommand] at notPlain
        cases notPlain
    | negotiation verb option => rfl
    | subnegotiation payload => rfl
  rw [stripOptions_lines valid, same]
  rfl

/-- The text is kept, and nothing else, exactly where no command has two
bytes. -/
theorem keepsText_iff (valid : stream.Valid) :
    KeepsText stream ↔ ∀ part ∈ stream.rest, part.1.isPlain = false := by
  constructor
  · intro keeps part member
    cases isCommand : part.1 with
    | plain c =>
        obtain ⟨validCommand, _text⟩ := valid.rest part member
        rw [isCommand] at validCommand
        obtain ⟨_below, _notSe, _notSb, solid, large⟩ :=
          branch_of_plain c validCommand
        have kept : c ∈ (stripOptions stream.bytes).1.flatten := by
          rw [stripOptions_lines valid, List.flatten_append]
          refine List.mem_append_right _ ?_
          rw [List.mem_flatten]
          have here : c ∈ (keptLines (part.1.visible ++ part.2)).flatten := by
            rw [keptLines_flatten, isCommand]
            exact List.mem_filter.mpr ⟨List.mem_cons_self, solid⟩
          obtain ⟨line, isLine, inLine⟩ := List.mem_flatten.mp here
          exact ⟨line, List.mem_flatMap.mpr ⟨part, member, isLine⟩, inLine⟩
        -- so the command byte would be one of a text
        obtain ⟨text, isText, inText⟩ :=
          List.mem_flatten.mp (keeps.bytes.subset kept)
        have small : c < 0xf0 := by
          rcases List.mem_cons.mp isText with first | later
          · rw [first] at inText
            exact valid.text c inText
          · obtain ⟨other, isOther, rfl⟩ := List.mem_map.mp later
            exact (valid.rest other isOther).2 c inText
        exact absurd small large
    | negotiation verb option => rfl
    | subnegotiation payload => rfl
  · intro none_plain
    have lines := stripOptions_texts valid none_plain
    constructor
    · rw [lines]
      generalize stream.texts = texts
      induction texts with
      | nil => exact List.Sublist.refl _
      | cons text rest ih =>
          rw [List.flatMap_cons, List.flatten_append, keptLines_flatten,
            List.flatten_cons]
          exact List.filter_sublist.append ih
    · intro text isText line isLine present
      rw [lines]
      exact List.mem_flatMap.mpr ⟨text, isText, mem_keptLines isLine present⟩

def login : Stream :=
  { text := asciiBytes "hello\r\n\r\nwelcome"
    rest :=
      [(.negotiation 0xfd 0xff, asciiBytes "login: "),
       (.subnegotiation (asciiBytes "\x18\x00XTERM"), []),
       (.negotiation 0xfb 0x01, asciiBytes "me\r\x00")] }

theorem login_valid : login.Valid := by
  constructor
  · unfold IsText
    decide +kernel
  · unfold login IsText
    rw [List.forall_mem_cons, List.forall_mem_cons, List.forall_mem_singleton]
    exact ⟨⟨⟨by decide, by decide⟩, by decide +kernel⟩,
      ⟨show iac ∉ asciiBytes "\x18\x00XTERM" by decide +kernel,
        by decide +kernel⟩,
      ⟨⟨by decide, by decide⟩, by decide +kernel⟩⟩

theorem login_kept : KeepsText login :=
  (keepsText_iff login_valid).mpr (by decide +kernel)

def nop : Stream := { text := [], rest := [(.plain 0xf1, asciiBytes "ls")] }

/-- The command byte becomes part of the line. -/
theorem nop_not_kept : nop.Valid ∧ ¬ KeepsText nop := by
  refine ⟨⟨fun _ member => absurd member List.not_mem_nil, ?_⟩, ?_⟩
  · rw [show nop.rest = [(.plain 0xf1, asciiBytes "ls")] from rfl,
      List.forall_mem_singleton]
    exact ⟨⟨by decide, by decide⟩, by unfold IsText; decide +kernel⟩
  · intro keeps
    have longer := keeps.bytes.length_le
    exact absurd longer (by decide +kernel)

end DpktNg.Telnet
