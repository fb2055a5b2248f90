/-
Literals in the data of a FETCH response.  The parser hands on a line with its
literal as soon as that has come, so what stands behind it is a line of its own.
-/

import DpktNg.Imap.StreamParser

namespace DpktNg.Imap

open Library IMAPStreamParser

/-- The length of the text that a response keeps of its bytes. -/
def keptLength (raw : Bytes) : Nat := (dropLineFeed (replaceCrlf raw)).length

theorem keptLength_line (text : Bytes) :
    keptLength (text ++ crlf) = (replaceCrlf text).length := by
  unfold keptLength dropLineFeed
  rw [replaceCrlf_line, List.getLast?_concat, if_pos rfl, List.dropLast_concat]

theorem IMAPResponse.parse_lines {raw : Bytes} (present : raw ≠ []) :
    (IMAPResponse.parse raw).lines = textLines raw := by
  unfold IMAPResponse.parse
  rw [if_neg present]
  dsimp only
  split
  · rfl
  · split
    · split
      · unfold IMAPResponse.parseUntaggedData
        dsimp only
        split <;> rfl
      · split
        · rfl
        · split <;> rfl
    · rfl

theorem keptLength_eq {raw raw' : Bytes} (present : raw ≠ [])
    (present' : raw' ≠ [])
    (same : IMAPResponse.parse raw = IMAPResponse.parse raw') :
    keptLength raw = keptLength raw' := by
  have lines := congrArg (fun response => joinLines response.lines) same
  simp only [IMAPResponse.parse_lines present,
    IMAPResponse.parse_lines present'] at lines
  unfold joinLines textLines at lines
  rw [List.intercalate_splitOn, List.intercalate_splitOn] at lines
  exact congrArg List.length lines

/-- Text without line ends. -/
structure PlainText where
  bytes : Bytes
  noReturn : 0x0d ∉ bytes
  noFeed : 0x0a ∉ bytes

/-- `* n FETCH (`, texts with a literal behind each, a last text, and `)`. -/
structure Fetch where
  number : Nat
  literals : List (PlainText × Bytes)
  last : PlainText

def braced (size : Nat) : Bytes := 0x7b :: (decimalBytes size ++ [0x7d])

/-- Items behind the start of their line. -/
def itemsFrom (front : Bytes) (last : PlainText) :
    List (PlainText × Bytes) → Bytes
  | [] => (front ++ last.bytes ++ [0x29]) ++ crlf
  | (text, data) :: rest =>
      ((front ++ text.bytes ++ braced data.length) ++ crlf) ++
        (data ++ itemsFrom [] last rest)

namespace Fetch

def head (fetch : Fetch) : Bytes :=
  asciiBytes "* " ++ decimalBytes fetch.number ++ asciiBytes " FETCH ("

def bytes (fetch : Fetch) : Bytes :=
  itemsFrom fetch.head fetch.last fetch.literals

end Fetch

/-! ### Lines -/

theorem decimalBytes_free {n : Nat} {byte : UInt8}
    (other : ¬(0x30 ≤ byte ∧ byte ≤ 0x39)) : byte ∉ decimalBytes n :=
  isDigits_free (isDigits_decimalBytes n) other

theorem braced_free {n : Nat} {byte : UInt8}
    (other : ¬(0x30 ≤ byte ∧ byte ≤ 0x39)) (noBrace : byte ≠ 0x7b)
    (noEnd : byte ≠ 0x7d) : byte ∉ braced n := by
  unfold braced
  rw [List.mem_cons, List.mem_append, List.mem_singleton]
  rintro (rfl | digit | rfl)
  · exact noBrace rfl
  · exact decimalBytes_free other digit
  · exact noEnd rfl

theorem cut_dropLast {front : Bytes} {last : UInt8} {start : Nat}
    (inside : start ≤ front.length) :
    cut (front ++ [last]) start ((front ++ [last]).length - 1) =
      front.drop start := by
  unfold cut
  rw [List.length_append, List.length_singleton, Nat.add_sub_cancel,
    List.drop_append_of_le_length inside]
  exact List.take_left' List.length_drop

theorem literalSize_braced {front : Bytes} {k n : Nat}
    (found : literalSize (front ++ braced k) = some n) : n = k := by
  have inner : front ++ braced k =
      (front ++ 0x7b :: decimalBytes k) ++ [0x7d] := by
    rw [List.append_assoc]
    rfl
  unfold literalSize at found
  split_ifs at found with shape
  dsimp only at found
  split_ifs at found with digits
  rw [Option.some.injEq] at found
  by_cases earlier : 0x7b ∈ front
  · -- the first brace is another one, so the last stands among the digits
    exfalso
    have before := List.idxOf_lt_length_of_mem earlier
    rw [List.idxOf_append_of_mem earlier, inner, cut_dropLast
      (by rw [List.length_append]; omega),
      List.drop_append_of_le_length (by omega)] at digits
    refine absurd ?_ (@isDigits_free _ digits 0x7b (by decide))
    exact List.mem_append_right _ List.mem_cons_self
  · have first : (front ++ braced k).idxOf 0x7b = front.length := by
      rw [List.idxOf_append_of_notMem earlier]
      rfl
    rw [first, inner, cut_dropLast
      (by rw [List.length_append, List.length_cons]; omega)] at found
    have behind : (front ++ 0x7b :: decimalBytes k).drop (front.length + 1) =
        decimalBytes k := by
      rw [← List.drop_drop, List.drop_left]
      rfl
    rw [behind, intOfDigits_decimalBytes] at found
    exact found.symm

theorem literalSize_other {stripped : Bytes} {last : UInt8}
    (other : last ≠ 0x7d) : literalSize (stripped ++ [last]) = none := by
  unfold literalSize
  rw [if_neg]
  rintro ⟨_open, _close, ends⟩
  rw [List.getLast?_concat, Option.some.injEq] at ends
  exact other ends

theorem rstripLine_last {front : Bytes} {last : UInt8}
    (solid : isLineEnd last = false) :
    rstripLine ((front ++ [last]) ++ crlf) = front ++ [last] := by
  rw [rstripLine_crlf, rstripLine_solid solid]
  rfl

theorem isLine_braced {front : Bytes} {k : Nat} (free : 0x0d ∉ front) :
    IsLine ((front ++ braced k) ++ crlf) := by
  apply isLine_of_free
  rw [List.mem_append, not_or]
  exact ⟨free, braced_free (by decide) (by decide) (by decide)⟩

theorem rstripLine_braced (front : Bytes) (k : Nat) :
    rstripLine ((front ++ braced k) ++ crlf) = front ++ braced k := by
  have inner : front ++ braced k =
      (front ++ 0x7b :: decimalBytes k) ++ [0x7d] := by
    rw [List.append_assoc]
    rfl
  rw [inner]
  exact rstripLine_last rfl

theorem isLine_last {front : Bytes} (free : 0x0d ∉ front) :
    IsLine ((front ++ [0x29]) ++ crlf) := by
  apply isLine_of_free
  rw [List.mem_append, not_or]
  exact ⟨free, by decide⟩

theorem itemsFrom_ends (front : Bytes) (last : PlainText)
    (literals : List (PlainText × Bytes)) :
    ∃ text, text ≠ [] ∧ itemsFrom front last literals = text ++ crlf := by
  induction literals generalizing front with
  | nil =>
      exact ⟨_, List.append_ne_nil_of_right_ne_nil _ (List.cons_ne_nil _ _), rfl⟩
  | cons literal rest ih =>
      obtain ⟨text, present, same⟩ := ih []
      unfold itemsFrom
      rw [same, ← List.append_assoc, ← List.append_assoc]
      exact ⟨_, List.append_ne_nil_of_right_ne_nil _ present, rfl⟩

theorem itemsFrom_kept (front : Bytes) (last : PlainText)
    (literals : List (PlainText × Bytes)) :
    1 ≤ keptLength (itemsFrom front last literals) ∧
      (replaceCrlf (itemsFrom front last literals)).length =
        keptLength (itemsFrom front last literals) + 1 := by
  obtain ⟨text, present, same⟩ := itemsFrom_ends front last literals
  rw [same, keptLength_line, replaceCrlf_line, List.length_append]
  exact ⟨replaceCrlf_length_pos present, rfl⟩

theorem head_ne_lineFeed {front behind : Bytes} {byte : UInt8}
    (free : 0x0a ∉ front) (other : byte ≠ 0x0a) :
    (front ++ byte :: behind).head? ≠ some 0x0a := by
  cases front with
  | nil => exact fun same => other (Option.some.inj same)
  | cons first rest =>
      intro same
      apply free
      rw [← Option.some.inj same]
      exact List.mem_cons_self

theorem itemsFrom_head (last : PlainText)
    (literals : List (PlainText × Bytes)) :
    (itemsFrom [] last literals).head? ≠ some 0x0a := by
  cases literals with
  | nil =>
      unfold itemsFrom
      rw [List.nil_append, List.append_assoc]
      exact head_ne_lineFeed last.noFeed (by decide)
  | cons literal rest =>
      unfold itemsFrom braced
      rw [List.nil_append, List.append_assoc, List.append_assoc]
      exact head_ne_lineFeed literal.1.noFeed (by decide)

theorem replaceCrlf_line_append (text behind : Bytes) :
    (replaceCrlf ((text ++ crlf) ++ behind)).length =
      (replaceCrlf text).length + 1 + (replaceCrlf behind).length := by
  have apart : (text ++ crlf).getLast? ≠ some 0x0d := by
    rw [List.getLast?_append]
    exact fun same => absurd (Option.some.inj same) (by decide)
  rw [replaceCrlf_append (Or.inl apart), replaceCrlf_line, List.length_append,
    List.length_append]
  rfl

/-! ### What the parser takes first -/

/-- The two states have handed on the same. -/
structure SameOutput (state next : IMAPState) : Prop where
  commands : next.commands = state.commands
  responses : next.responses = state.responses

theorem drain_line {state : IMAPState} (none : state.litPending = 0)
    {line : Bytes} (isLine : IsLine line) (behind : Bytes) :
    imapFeeder.drain state (line ++ behind) =
      imapFeeder.drain (processLine state line) behind := by
  apply Feeder.drain_some
  change step state _ = _
  rw [step_line none, isLine.takeLine]
  rfl

theorem drain_literal {state : IMAPState} {data : Bytes}
    (pending : state.litPending = data.length) (present : data ≠ [])
    (behind : Bytes) :
    imapFeeder.drain state (data ++ behind) =
      imapFeeder.drain (endLiteral state data) behind := by
  have positive : state.litPending ≠ 0 := by
    rw [pending]
    exact (List.length_pos_iff.mpr present).ne'
  apply Feeder.drain_some
  change step state _ = _
  rw [step_literal positive (by rw [pending, List.length_append]; omega),
    pending, List.take_left, List.drop_left]

theorem processLine_braced {state : IMAPState} (front : Bytes) (k : Nat) :
    processLine state ((front ++ braced k) ++ crlf) =
      match literalSize (front ++ braced k) with
      | some _ =>
          { state with
            litPending := k
            pendingLine := some ((front ++ braced k) ++ crlf) }
      | none => dispatchLine state ((front ++ braced k) ++ crlf) := by
  have present : front ++ braced k ≠ [] :=
    List.append_ne_nil_of_right_ne_nil _ (List.cons_ne_nil _ _)
  unfold processLine
  dsimp only
  rw [rstripLine_braced, if_neg present]
  cases found : literalSize (front ++ braced k) with
  | none => rfl
  | some n =>
      rw [literalSize_braced found]

theorem processLine_last {state : IMAPState} (front : Bytes) :
    processLine state ((front ++ [0x29]) ++ crlf) =
      dispatchLine state ((front ++ [0x29]) ++ crlf) := by
  have present : front ++ [0x29] ≠ [] :=
    List.append_ne_nil_of_right_ne_nil _ (List.cons_ne_nil _ _)
  unfold processLine
  dsimp only
  rw [rstripLine_last rfl, if_neg present, literalSize_other (by decide)]

/-- The first thing that comes out of a buffer is what is made of `raw`. -/
def HandsOn (state : IMAPState) (buffer raw : Bytes) : Prop :=
  ∃ next after rest, imapFeeder.drain state buffer = imapFeeder.drain after rest ∧
    SameOutput state next ∧ SameOutput (dispatchLine next raw) after

theorem handsOn_line {state : IMAPState} (none : state.litPending = 0)
    {line : Bytes} (isLine : IsLine line)
    (plain : processLine state line = dispatchLine state line)
    (behind : Bytes) : HandsOn state (line ++ behind) line := by
  refine ⟨state, dispatchLine state line, behind, ?_, ⟨rfl, rfl⟩, ⟨rfl, rfl⟩⟩
  rw [drain_line none isLine, plain]

theorem handsOn_literal {state : IMAPState} (none : state.litPending = 0)
    {line data : Bytes} (isLine : IsLine line)
    (waits : processLine state line =
      { state with litPending := data.length, pendingLine := some line })
    (present : data ≠ []) (behind : Bytes) :
    HandsOn state (line ++ (data ++ behind)) (line ++ data) := by
  refine ⟨{ state with litPending := 0, pendingLine := some line },
    endLiteral
      { state with litPending := data.length, pendingLine := some line } data,
    behind, ?_, ⟨rfl, rfl⟩, ⟨rfl, rfl⟩⟩
  rw [drain_line none isLine, waits, drain_literal rfl present]

theorem handsOn_later {state : IMAPState} (none : state.litPending = 0)
    {line raw : Bytes} (isLine : IsLine line)
    (same : SameOutput state (processLine state line)) {behind : Bytes}
    (later : HandsOn (processLine state line) behind raw) :
    HandsOn state (line ++ behind) raw := by
  obtain ⟨next, after, rest, drained, output, handed⟩ := later
  refine ⟨next, after, rest, ?_, ⟨?_, ?_⟩, handed⟩
  · rw [drain_line none isLine, drained]
  · rw [output.commands, same.commands]
  · rw [output.responses, same.responses]

/-- What comes out first is no more than the items, and less where there is a
literal. -/
theorem itemsFrom_handsOn {last : PlainText}
    {literals : List (PlainText × Bytes)} {front : Bytes}
    (noReturn : 0x0d ∉ front) {state : IMAPState} (none : state.litPending = 0)
    (behind : Bytes) :
    ∃ raw, raw ≠ [] ∧
      HandsOn state (itemsFrom front last literals ++ behind) raw ∧
      keptLength raw ≤ keptLength (itemsFrom front last literals) ∧
      (literals ≠ [] →
        keptLength raw < keptLength (itemsFrom front last literals)) := by
  induction literals generalizing front state with
  | nil =>
      have free : 0x0d ∉ front ++ last.bytes := by
        rw [List.mem_append, not_or]
        exact ⟨noReturn, last.noReturn⟩
      exact ⟨_, List.append_ne_nil_of_right_ne_nil _ (List.cons_ne_nil _ _),
        handsOn_line none (isLine_last free) (processLine_last _) behind,
        le_rfl, fun impossible => absurd rfl impossible⟩
  | cons literal rest ih =>
      obtain ⟨text, data⟩ := literal
      have free : 0x0d ∉ front ++ text.bytes := by
        rw [List.mem_append, not_or]
        exact ⟨noReturn, text.noReturn⟩
      have isLine : IsLine ((front ++ text.bytes ++ braced data.length) ++ crlf) :=
        isLine_braced free
      have present : (front ++ text.bytes ++ braced data.length) ++ crlf ≠ [] :=
        List.append_ne_nil_of_right_ne_nil _ (List.cons_ne_nil _ _)
      have whole := (itemsFrom_kept front last ((text, data) :: rest)).2
      have positive := (itemsFrom_kept [] last rest).1
      have later := (itemsFrom_kept [] last rest).2
      have processed := @processLine_braced state (front ++ text.bytes)
        data.length
      unfold itemsFrom at whole ⊢
      rw [replaceCrlf_line_append] at whole
      suffices strict : ∃ raw, raw ≠ [] ∧
          HandsOn state
            (((front ++ text.bytes ++ braced data.length) ++ crlf) ++
              (data ++ (itemsFrom [] last rest ++ behind))) raw ∧
          keptLength raw < keptLength
            (((front ++ text.bytes ++ braced data.length) ++ crlf) ++
              (data ++ itemsFrom [] last rest)) by
        obtain ⟨raw, presentRaw, hands, less⟩ := strict
        rw [List.append_assoc _ (data ++ _), List.append_assoc data]
        exact ⟨raw, presentRaw, hands, less.le, fun _present => less⟩
      cases found : literalSize (front ++ text.bytes ++ braced data.length) with
      | none =>
          rw [found] at processed
          refine ⟨_, present, handsOn_line none isLine processed _, ?_⟩
          have behindPresent : data ++ itemsFrom [] last rest ≠ [] := by
            obtain ⟨text', present', same⟩ := itemsFrom_ends [] last rest
            rw [same]
            exact List.append_ne_nil_of_right_ne_nil _
              (List.append_ne_nil_of_left_ne_nil present' _)
          have more := replaceCrlf_length_pos behindPresent
          rw [keptLength_line]
          omega
      | some n =>
          rw [found] at processed
          by_cases empty : data = []
          · subst empty
            obtain ⟨raw, presentRaw, hands, le, _less⟩ :=
              @ih [] List.not_mem_nil (processLine state _)
                (by rw [processed]; rfl)
            refine ⟨raw, presentRaw, handsOn_later none isLine
              (by rw [processed]; exact ⟨rfl, rfl⟩) hands, ?_⟩
            rw [List.nil_append] at whole ⊢
            omega
          · refine ⟨_, List.append_ne_nil_of_left_ne_nil present _,
              handsOn_literal none isLine processed empty _, ?_⟩
            have kept : keptLength
                (((front ++ text.bytes ++ braced data.length) ++ crlf) ++ data)
                ≤ _ := dropLineFeed_length _
            have apart := itemsFrom_head last rest
            rw [replaceCrlf_append (Or.inr apart), List.length_append] at whole
            rw [replaceCrlf_line_append] at kept
            omega

structure Grows (state next : IMAPState) : Prop where
  commands : state.commands <+: next.commands
  responses : state.responses <+: next.responses

theorem Grows.refl (state : IMAPState) : Grows state state :=
  ⟨List.prefix_rfl, List.prefix_rfl⟩

theorem dispatchLine_grows (state : IMAPState) (line : Bytes) :
    Grows state (dispatchLine state line) := by
  unfold dispatchLine
  split
  · exact ⟨List.prefix_rfl, List.prefix_append _ _⟩
  · exact ⟨List.prefix_append _ _, List.prefix_rfl⟩

theorem processLine_grows (state : IMAPState) (line : Bytes) :
    Grows state (processLine state line) := by
  unfold processLine
  dsimp only
  split
  · exact .refl state
  · split
    · exact ⟨List.prefix_rfl, List.prefix_rfl⟩
    · exact dispatchLine_grows state line

theorem endLiteral_grows (state : IMAPState) (litData : Bytes) :
    Grows state (endLiteral state litData) := by
  unfold endLiteral
  dsimp only
  split
  · have grows := dispatchLine_grows { state with litPending := 0 }
    exact ⟨(grows _).commands, (grows _).responses⟩
  · exact ⟨List.prefix_rfl, List.prefix_rfl⟩

theorem drain_grows (state : IMAPState) (buffer : Bytes) :
    Grows state (imapFeeder.drain state buffer).state := by
  refine Feeder.drain_induction (P := fun state _ fed =>
    Grows state fed.state) ?_ ?_ state buffer
  · exact fun state _buffer _stuck => .refl state
  · intro state buffer next rest taken later
    have grows : Grows state next := by
      rcases step_cases taken with
        ⟨_pending, _whole, rfl, _rest⟩ | ⟨_none, line, _taken, rfl⟩
      · exact endLiteral_grows _ _
      · exact processLine_grows _ _
    exact ⟨grows.commands.trans later.commands,
      grows.responses.trans later.responses⟩

/-! ### Streams of responses -/

theorem Fetch.head_noReturn (fetch : Fetch) : 0x0d ∉ fetch.head := by
  unfold Fetch.head
  rw [List.mem_append, List.mem_append]
  rintro ((start | digit) | behind)
  · exact absurd start (by decide)
  · exact decimalBytes_free (by decide) digit
  · exact absurd behind (by decide)

theorem drain_plain {fetch : Fetch} (plain : fetch.literals = [])
    {state : IMAPState} (none : state.litPending = 0) (behind : Bytes) :
    imapFeeder.drain state (fetch.bytes ++ behind) =
      imapFeeder.drain
        { state with
          responses := state.responses ++ [IMAPResponse.parse fetch.bytes] }
        behind := by
  have whole : fetch.bytes =
      ((fetch.head ++ fetch.last.bytes) ++ [0x29]) ++ crlf := by
    unfold Fetch.bytes
    rw [plain]
    rfl
  have free : 0x0d ∉ fetch.head ++ fetch.last.bytes := by
    rw [List.mem_append, not_or]
    exact ⟨fetch.head_noReturn, fetch.last.noReturn⟩
  rw [whole, drain_line none (isLine_last free), processLine_last]
  unfold dispatchLine
  rw [if_pos]
  rw [rstripLine_last rfl]
  rfl

theorem Fetch.bytes_ne_nil (fetch : Fetch) : fetch.bytes ≠ [] := by
  obtain ⟨text, present, same⟩ :=
    itemsFrom_ends fetch.head fetch.last fetch.literals
  unfold Fetch.bytes
  rw [same]
  exact List.append_ne_nil_of_left_ne_nil present _

/-- Where what comes first out of a buffer is the response of the element in
front, and no command ever comes, that element had no literal. -/
theorem Fetch.literals_nil_of_first {fetch : Fetch} {state : IMAPState}
    (none : state.litPending = 0) {behind : Bytes}
    {later : List IMAPResponse}
    (commands : (imapFeeder.drain state
      (fetch.bytes ++ behind)).state.commands = state.commands)
    (responses : (imapFeeder.drain state
      (fetch.bytes ++ behind)).state.responses =
        state.responses ++ IMAPResponse.parse fetch.bytes :: later) :
    fetch.literals = [] := by
  by_contra some
  obtain ⟨raw, present, ⟨next, after, left, drained, output, handed⟩,
    _le, less⟩ := @itemsFrom_handsOn fetch.last fetch.literals fetch.head
      fetch.head_noReturn state none behind
  have grows := drain_grows after left
  change imapFeeder.drain state (fetch.bytes ++ _) = _ at drained
  rw [← drained] at grows
  have moreCommands := grows.commands
  have moreResponses := grows.responses
  rw [commands, handed.commands] at moreCommands
  rw [responses, handed.responses] at moreResponses
  unfold dispatchLine at moreCommands moreResponses
  split at moreCommands
  · -- the first response is another one
    rename_i isResponse
    rw [if_pos isResponse] at moreResponses
    dsimp only at moreResponses
    rw [output.responses, List.prefix_append_right_inj] at moreResponses
    have first := (List.cons_prefix_cons.mp moreResponses).1
    have lengths := keptLength_eq present fetch.bytes_ne_nil first
    have shorter := less some
    unfold Fetch.bytes at lengths
    omega
  · -- or there is a command
    have lengths := moreCommands.length_le
    dsimp only at lengths
    rw [output.commands, List.length_append, List.length_singleton] at lengths
    omega

/-- One response for each element, and no command, shows that there was no
literal. -/
theorem literals_nil {fetches : List Fetch} {state : IMAPState}
    (none : state.litPending = 0)
    (commands : (imapFeeder.drain state
      (fetches.map Fetch.bytes).flatten).state.commands = state.commands)
    (responses : (imapFeeder.drain state
      (fetches.map Fetch.bytes).flatten).state.responses =
        state.responses ++
          fetches.map fun fetch => IMAPResponse.parse fetch.bytes) :
    ∀ fetch ∈ fetches, fetch.literals = [] := by
  induction fetches generalizing state with
  | nil => exact fun fetch impossible => absurd impossible List.not_mem_nil
  | cons fetch rest ih =>
      rw [List.map_cons, List.flatten_cons] at commands responses
      rw [List.map_cons] at responses
      have plain := fetch.literals_nil_of_first none commands responses
      rw [drain_plain plain none] at commands responses
      have later := @ih
        { state with
          responses := state.responses ++ [IMAPResponse.parse fetch.bytes] }
        none commands (responses.trans (List.append_cons _ _ _))
      exact List.forall_mem_cons.mpr ⟨plain, later⟩

theorem drain_plains {fetches : List Fetch}
    (plain : ∀ fetch ∈ fetches, fetch.literals = []) {state : IMAPState}
    (none : state.litPending = 0) :
    imapFeeder.drain state (fetches.map Fetch.bytes).flatten =
      { state :=
          { state with
            responses := state.responses ++
              fetches.map fun fetch => IMAPResponse.parse fetch.bytes }
        buffer := [] } := by
  induction fetches generalizing state with
  | nil =>
      rw [List.map_nil, List.map_nil, List.append_nil]
      exact Feeder.drain_none (Feeder.step_nil state)
  | cons fetch rest ih =>
      obtain ⟨here, later⟩ := List.forall_mem_cons.mp plain
      have behind := @ih later
        { state with
          responses := state.responses ++ [IMAPResponse.parse fetch.bytes] }
        none
      rw [List.map_cons, List.flatten_cons, drain_plain here none, behind,
        List.append_assoc]
      rfl

theorem feed_fresh (stream : Bytes) :
    fresh.feed stream = imapFeeder.drain fresh.state stream := rfl

/-- Each response is found as it was sent, and no command, exactly where there
are no literals. -/
theorem responses_found_iff (fetches : List Fetch)
    (chunks : Cutting (fetches.map Fetch.bytes).flatten) :
    ((fresh.feedAll chunks.pieces).state.commands = [] ∧
        (fresh.feedAll chunks.pieces).state.responses =
          fetches.map fun fetch => IMAPResponse.parse fetch.bytes) ↔
      ∀ fetch ∈ fetches, fetch.literals = [] := by
  rw [feedAll_eq_feed, feed_fresh]
  constructor
  · rintro ⟨commands, responses⟩
    exact literals_nil rfl commands responses
  · intro plain
    rw [drain_plains plain rfl]
    exact ⟨rfl, rfl⟩

def hello : Fetch where
  number := 1
  literals :=
    [({ bytes := asciiBytes "BODY[] "
        noReturn := by decide
        noFeed := by decide }, asciiBytes "Hello")]
  last := { bytes := [], noReturn := by decide, noFeed := by decide }

/-- The parenthesis behind the literal becomes a command. -/
theorem hello_command :
    (fresh.feed hello.bytes).state.commands ≠ [] := by
  have parts : hello.bytes =
      asciiBytes "* 1 FETCH (BODY[] {5}\r\n" ++
        (asciiBytes "Hello" ++ (asciiBytes ")\r\n" ++ [])) := by decide
  have waits : processLine fresh.state (asciiBytes "* 1 FETCH (BODY[] {5}\r\n")
      = { fresh.state with
          litPending := (asciiBytes "Hello").length
          pendingLine := some (asciiBytes "* 1 FETCH (BODY[] {5}\r\n") } := rfl
  have first : IsLine (asciiBytes "* 1 FETCH (BODY[] {5}\r\n") := by
    unfold IsLine
    rfl
  have second : IsLine (asciiBytes ")\r\n") := by
    unfold IsLine
    rfl
  rw [feed_fresh, parts, drain_line rfl first, waits,
    drain_literal rfl (by decide), drain_line rfl second,
    Feeder.drain_none (Feeder.step_nil _)]
  decide +kernel

end DpktNg.Imap
