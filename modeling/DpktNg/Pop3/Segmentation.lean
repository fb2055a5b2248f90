/-
POP3 on a stream that comes in chunks.  The outcome is that of the whole stream
unless a chunk ends right behind the first line of a multi-line response.
-/

import DpktNg.Pop3.Reading

namespace DpktNg.Pop3

open Library POP3

/-- Line after line, with the end of `_process` wherever a chunk ends behind
the lines so far. -/
def runCut (cutBehind : List Bytes → Bool) :
    List Bytes → POP3State → List Bytes → POP3State
  | _, state, [] => state
  | done, state, line :: rest =>
      runCut cutBehind (done ++ [line])
        (if cutBehind (done ++ [line]) then
          settle (processLine state line) []
        else processLine state line)
        rest

@[simp] theorem runCut_nil (cutBehind : List Bytes → Bool)
    (done : List Bytes) (state : POP3State) :
    runCut cutBehind done state [] = state := rfl

theorem runCut_cons (cutBehind : List Bytes → Bool) (done : List Bytes)
    (state : POP3State) (line : Bytes) (rest : List Bytes) :
    runCut cutBehind done state (line :: rest) =
      runCut cutBehind (done ++ [line])
        (if cutBehind (done ++ [line]) then
          settle (processLine state line) []
        else processLine state line)
        rest := rfl

/-- From here on, a cut right behind a held line that goes on. -/
def HeldCut (cutBehind : List Bytes → Bool) :
    List Bytes → Reading → List Bytes → Prop
  | _, _, [] => False
  | done, reading, line :: rest =>
      (reading = .held ∧ cutBehind done = true ∧
        isStatus (rstripLine line) = false) ∨
      HeldCut cutBehind (done ++ [line]) (reading.next line) rest

variable {cutBehind : List Bytes → Bool} {done lines : List Bytes}
  {cut whole : POP3State} {more : Nat}

theorem ahead_run (ahead : Ahead more cut whole) :
    Ahead more (runCut cutBehind done cut lines)
      (lines.foldl processLine whole) := by
  induction lines generalizing done cut whole with
  | nil => exact ahead
  | cons line rest ih =>
      rw [runCut_cons, List.foldl_cons]
      split
      · exact ih (ahead.line line).settle
      · exact ih (ahead.line line)

/-- A cut behind a held line that goes on makes outputs that the whole stream
does not. -/
theorem ahead_heldCut (ahead : Ahead 0 cut whole)
    (given : cutBehind done = true → reading cut ≠ .held)
    (lost : HeldCut cutBehind done (reading whole) lines) :
    Ahead 1 (runCut cutBehind done cut lines)
      (lines.foldl processLine whole) := by
  induction lines generalizing done cut whole with
  | nil => exact lost.elim
  | cons line rest ih =>
      have next := (processLine_knows ahead.wholeSound line).reading_eq
      unfold HeldCut at lost
      rw [runCut_cons, List.foldl_cons]
      rcases lost with ⟨held, cutHere, data⟩ | later
      · have idle : reading cut = .idle := by
          rcases ahead.beside with same | inside | ⟨idle, _held⟩
          · rw [held] at same
            exact absurd same (given cutHere)
          · rw [held] at inside
            cases inside
          · exact idle
        have gained := ahead.lost idle held data
        split
        · exact ahead_run gained.settle
        · exact ahead_run gained
      · rw [← next] at later
        split
        · have settles := settle_knows (ahead.line line).cutSound
          refine ih (ahead.line line).settle (fun _cut held => ?_) later
          rw [settles.reading_eq] at held
          unfold settled at held
          split at held <;> cases held
        · rename_i noCut
          exact ih (ahead.line line) (fun cutHere => absurd cutHere noCut) later

theorem settled_run (sound : Sound whole)
    (same : cut = whole ∨
      (reading whole = .held ∧ cutBehind done = true ∧ cut = settle whole []))
    (kept : ¬HeldCut cutBehind done (reading whole) lines) :
    settle (runCut cutBehind done cut lines) [] =
      settle (lines.foldl processLine whole) [] := by
  induction lines generalizing done cut whole with
  | nil =>
      rcases same with rfl | ⟨_held, _cut, rfl⟩
      · rfl
      · exact settle_settle whole
  | cons line rest ih =>
      have known := processLine_knows sound line
      unfold HeldCut at kept
      obtain ⟨notHere, notLater⟩ := not_or.mp kept
      have processed : processLine cut line = processLine whole line := by
        rcases same with rfl | ⟨held, cutHere, rfl⟩
        · rfl
        · have status : isStatus (rstripLine line) = true := by
            by_contra data
            exact notHere ⟨held, cutHere, Bool.eq_false_iff.mpr data⟩
          obtain ⟨outside, _some⟩ := reading_held held
          obtain ⟨⟨idle, _begun, _sound⟩, _total⟩ := flushPending_knows outside
          have outsideToo := (reading_idle idle).1
          have again : flushPending (flushPending whole) =
              flushPending whole := by
            rw [← settle_outside outsideToo]
            exact settle_eq_self (flushPending_pending whole)
          rw [settle_outside outside, processLine_status outsideToo status,
            processLine_status outside status, again]
      rw [runCut_cons, List.foldl_cons, processed]
      rw [← known.reading_eq] at notLater
      split
      · rename_i cutHere
        by_cases held : reading (processLine whole line) = .held
        · exact ih known.sound (Or.inr ⟨held, cutHere, rfl⟩) notLater
        · refine ih known.sound (Or.inl ?_) notLater
          apply settle_eq_self
          by_cases inside : (processLine whole line).inMultiline = true
          · exact known.sound inside
          · by_contra some
            apply held
            unfold reading
            rw [if_neg inside, if_pos (Option.isSome_iff_ne_none.mpr some)]
      · exact ih known.sound (Or.inl rfl) notLater

theorem runCut_append (state : POP3State) (now later : List Bytes) :
    runCut cutBehind done state (now ++ later) =
      runCut cutBehind (done ++ now) (runCut cutBehind done state now)
        later := by
  induction now generalizing done state with
  | nil =>
      rw [List.append_nil]
      rfl
  | cons line rest ih =>
      rw [List.cons_append, runCut_cons, ih, List.append_assoc, runCut_cons]
      rfl

theorem runCut_chunk {now : List Bytes} (state : POP3State)
    (inner : ∀ front, front ≠ [] → front <+: now → front ≠ now →
      cutBehind (done ++ front) = false) :
    runCut cutBehind done state now =
      if now ≠ [] ∧ cutBehind (done ++ now) = true then
        settle (now.foldl processLine state) []
      else now.foldl processLine state := by
  induction now using List.reverseRecOn with
  | nil => rfl
  | append_singleton front last ih =>
      have plain : runCut cutBehind done state front =
          front.foldl processLine state := by
        rw [ih fun shorter present isPrefix _other =>
          inner shorter present (isPrefix.trans (List.prefix_append _ _)) ?_]
        · by_cases present : front ≠ []
          · have noCut := inner front present (List.prefix_append _ _)
              (fun same => List.cons_ne_nil last []
                (List.self_eq_append_right.mp same))
            rw [if_neg]
            rintro ⟨_present, cutHere⟩
            rw [noCut] at cutHere
            cases cutHere
          · exact if_neg (fun both => present both.1)
        · rintro rfl
          have lengths := isPrefix.length_le
          rw [List.length_append, List.length_singleton] at lengths
          omega
      rw [runCut_append, plain, List.foldl_append, runCut_cons, runCut_nil,
        List.append_assoc]
      by_cases cutHere : cutBehind (done ++ (front ++ [last])) = true
      · rw [if_pos cutHere, if_pos ⟨by simp, cutHere⟩]
        rfl
      · rw [if_neg cutHere, if_neg (fun both => cutHere both.2)]
        rfl

theorem no_lines {lines : List Bytes} (isLine : ∀ line ∈ lines, IsLine line)
    (stuck : takeLine lines.flatten = none) : lines = [] := by
  cases lines with
  | nil => rfl
  | cons line rest =>
      rw [List.flatten_cons, (isLine line List.mem_cons_self).takeLine] at stuck
      cases stuck

/-- With an unfinished line in the buffer, one of the chunks ends behind these
lines. -/
def ChunkEndsBehind (behind : Bytes) (pieces lines : List Bytes) : Prop :=
  ∃ first, first <+: pieces ∧ behind ++ first.flatten = lines.flatten

theorem chunkEndsBehind_cons {behind piece left : Bytes}
    {rest now front : List Bytes} (stuck : takeLine behind = none)
    (parted : now.flatten ++ left = behind ++ piece)
    (areLines : ∀ line ∈ front, IsLine line) (present : front ≠ []) :
    ChunkEndsBehind behind (piece :: rest) front ↔
      ∃ first, first <+: rest ∧
        now.flatten ++ (left ++ first.flatten) = front.flatten := by
  constructor
  · rintro ⟨first, firstPrefix, same⟩
    cases first with
    | nil =>
        rw [List.flatten_nil, List.append_nil] at same
        exact absurd (no_lines areLines (same ▸ stuck)) present
    | cons head tail =>
        obtain ⟨rfl, tailPrefix⟩ := List.cons_prefix_cons.mp firstPrefix
        refine ⟨tail, tailPrefix, ?_⟩
        rw [← List.append_assoc, parted, List.append_assoc, ← same,
          List.flatten_cons]
  · rintro ⟨first, firstPrefix, same⟩
    refine ⟨piece :: first, List.cons_prefix_cons.mpr ⟨rfl, firstPrefix⟩, ?_⟩
    rw [← same, List.flatten_cons, ← List.append_assoc, ← parted,
      List.append_assoc]

theorem no_end_inside {left : Bytes} {first front now : List Bytes}
    (areLines : ∀ line ∈ now, IsLine line) (isPrefix : front <+: now)
    (same : now.flatten ++ (left ++ first.flatten) = front.flatten) :
    front = now := by
  obtain ⟨more, rfl⟩ := isPrefix
  rw [List.flatten_append, List.append_assoc,
    List.append_right_eq_self] at same
  have none := (List.append_eq_nil_iff.mp same).1
  have nothing := no_lines
    (fun line member => areLines line (List.mem_append_right _ member))
    (none ▸ rfl)
  rw [nothing, List.append_nil]

theorem end_behind_iff {left : Bytes} {rest now : List Bytes} :
    (∃ first, first <+: rest ∧
      now.flatten ++ (left ++ first.flatten) = now.flatten) ↔ left = [] := by
  constructor
  · rintro ⟨first, _firstPrefix, same⟩
    exact (List.append_eq_nil_iff.mp
      (List.append_right_eq_self.mp same)).1
  · rintro rfl
    exact ⟨[], List.nil_prefix, List.append_nil _⟩

/-- What a chunk leaves: `settle` gives a line away only where nothing is left
in the buffer, which is a cut. -/
theorem settle_chunk {now : List Bytes} {left : Bytes} {state : POP3State}
    (inner : ∀ front, front ≠ [] → front <+: now → front ≠ now →
      cutBehind (done ++ front) = false)
    (atEnd : now ≠ [] → (cutBehind (done ++ now) = true ↔ left = []))
    (given : now = [] → left = [] → settle state [] = state) :
    settle (now.foldl processLine state) left =
      runCut cutBehind done state now := by
  rw [runCut_chunk state inner]
  by_cases ends : left = []
  · subst ends
    by_cases present : now = []
    · subst present
      rw [if_neg (fun both => both.1 rfl)]
      exact given rfl rfl
    · rw [if_pos ⟨present, (atEnd present).mpr rfl⟩]
  · rw [if_neg fun both => ends ((atEnd both.1).mp both.2)]
    exact if_neg (fun both => ends both.2)

/-- The chunks from here on, with an unfinished line in the buffer. -/
theorem feedAll_runCut {pieces later : List Bytes} {behind : Bytes}
    {state : POP3State} (isLine : ∀ line ∈ later, IsLine line)
    (stuck : takeLine behind = none)
    (joined : behind ++ pieces.flatten = later.flatten)
    (given : behind = [] → settle state [] = state)
    (cuts : ∀ now, now ≠ [] → now <+: later →
      (cutBehind (done ++ now) = true ↔ ChunkEndsBehind behind pieces now)) :
    POP3.feedAll { state := state, buffer := behind } pieces =
      { state := settle (runCut cutBehind done state later) [],
        buffer := [] } := by
  induction pieces generalizing done later behind state with
  | nil =>
      rw [List.flatten_nil, List.append_nil] at joined
      have empty := no_lines isLine (joined ▸ stuck)
      subst empty
      subst joined
      rw [runCut_nil, given rfl]
      rfl
  | cons piece rest ih =>
      rw [List.flatten_cons, ← List.append_assoc] at joined
      obtain ⟨now, later, left, rfl, parted, parts, stuckToo, run⟩ :=
        @lineFeeder_drain _ processLine _ isLine _ _ joined state
      -- a cut behind some of the lines is at the end of a later chunk
      have cutAt : ∀ front, front ≠ [] → front <+: now ++ later →
          (cutBehind (done ++ front) = true ↔ ∃ first, first <+: rest ∧
            now.flatten ++ (left ++ first.flatten) = front.flatten) := by
        intro front present isPrefix
        rw [cuts front present isPrefix]
        exact chunkEndsBehind_cons stuck parted.symm
          (fun line member => isLine line (isPrefix.subset member)) present
      have inner : ∀ front, front ≠ [] → front <+: now → front ≠ now →
          cutBehind (done ++ front) = false := by
        intro front present isPrefix other
        rw [Bool.eq_false_iff]
        intro cutHere
        obtain ⟨first, _firstPrefix, same⟩ := (cutAt front present
          (isPrefix.trans (List.prefix_append _ _))).mp cutHere
        exact other (no_end_inside
          (fun line member => isLine line (List.mem_append_left _ member))
          isPrefix same)
      have atEnd : now ≠ [] →
          (cutBehind (done ++ now) = true ↔ left = []) := by
        intro present
        rw [cutAt now present (List.prefix_append _ _)]
        exact end_behind_iff
      have chunk : settle (now.foldl processLine state) left =
          runCut cutBehind done state now := by
        refine settle_chunk inner atEnd ?_
        rintro rfl rfl
        exact given (List.append_eq_nil_iff.mp parted).1
      have fed : POP3.feed { state := state, buffer := behind } piece =
          { state := runCut cutBehind done state now, buffer := left } := by
        unfold POP3.feed Feeder.feed pop3Feeder
        dsimp only
        rw [run, chunk]
      change POP3.feedAll (POP3.feed _ piece) rest = _
      rw [fed, runCut_append]
      refine ih
        (fun line member => isLine line (List.mem_append_right _ member))
        stuckToo parts ?_ ?_
      · rintro rfl
        rw [← chunk, settle_settle]
      · intro front present isPrefix
        have isPrefixToo : now ++ front <+: now ++ later :=
          (List.prefix_append_right_inj now).mpr isPrefix
        have presentToo : now ++ front ≠ [] :=
          fun none => present (List.append_eq_nil_iff.mp none).2
        unfold ChunkEndsBehind
        rw [List.append_assoc, cutAt _ presentToo isPrefixToo,
          List.flatten_append]
        simp only [List.append_cancel_left_eq]

structure Line where
  bytes : Bytes
  isLine : IsLine bytes

/-- The reading of the whole stream behind its first lines. -/
def readingBehind (lines : List Line) : Reading :=
  (lines.map Line.bytes).foldl Reading.next .idle

/-- Behind these lines a chunk ends. -/
def ChunkEnds (chunks : List Bytes) (lines : List Line) : Prop :=
  ∃ first, first <+: chunks ∧ first.flatten = (lines.map Line.bytes).flatten

/-- A chunk ends right behind a `+OK` line with a space, and the next line of
the stream is no status line, so it goes on with the response. -/
def CutResponse (chunks : List Bytes) (lines : List Line) : Prop :=
  ∃ before line after, lines = before ++ line :: after ∧
    readingBehind before = .held ∧ ChunkEnds chunks before ∧
    isStatus (rstripLine line.bytes) = false

theorem heldCut_iff {reading : Reading} :
    HeldCut cutBehind done reading lines ↔
      ∃ before line after, lines = before ++ line :: after ∧
        before.foldl Reading.next reading = .held ∧
        cutBehind (done ++ before) = true ∧
        isStatus (rstripLine line) = false := by
  induction lines generalizing done reading with
  | nil =>
      refine iff_of_false (fun impossible => impossible) ?_
      rintro ⟨before, line, after, none, _rest⟩
      exact List.append_ne_nil_of_right_ne_nil _ (List.cons_ne_nil _ _)
        none.symm
  | cons first rest ih =>
      unfold HeldCut
      rw [ih]
      constructor
      · rintro (⟨held, cutHere, data⟩ | ⟨before, line, after, rfl, later⟩)
        · refine ⟨[], first, rest, rfl, held, ?_, data⟩
          rw [List.append_nil]
          exact cutHere
        · refine ⟨first :: before, line, after, rfl, later.1, ?_, later.2.2⟩
          rw [← later.2.1, List.append_assoc]
          rfl
      · rintro ⟨before, line, after, same, held, cutHere, data⟩
        cases before with
        | nil =>
            obtain ⟨rfl, _rest⟩ := List.cons_eq_cons.mp same
            rw [List.append_nil] at cutHere
            exact Or.inl ⟨held, cutHere, data⟩
        | cons head tail =>
            obtain ⟨rfl, rfl⟩ := List.cons_eq_cons.mp same
            refine Or.inr ⟨tail, line, after, rfl, held, ?_, data⟩
            rw [← cutHere, List.append_assoc]
            rfl

/-- The chunks end behind these lines. -/
def endsBehind (chunks : List Bytes) (lines : List Bytes) : Bool :=
  chunks.inits.any fun first => first.flatten = lines.flatten

theorem endsBehind_iff {chunks lines : List Bytes} :
    endsBehind chunks lines = true ↔
      ∃ first, first <+: chunks ∧ first.flatten = lines.flatten := by
  unfold endsBehind
  simp only [List.any_eq_true, List.mem_inits, decide_eq_true_eq]

theorem heldCut_lines {chunks : List Bytes} {lines : List Line} :
    HeldCut (endsBehind chunks) [] .idle (lines.map Line.bytes) ↔
      CutResponse chunks lines := by
  rw [heldCut_iff]
  constructor
  · rintro ⟨before, line, after, same, held, ends, data⟩
    obtain ⟨first, rest, rfl, rfl, behind⟩ := List.map_eq_append_iff.mp same
    obtain ⟨next, later, rfl, rfl, _after⟩ := List.map_eq_cons_iff.mp behind
    exact ⟨first, next, later, rfl, held, endsBehind_iff.mp ends, data⟩
  · rintro ⟨before, line, after, rfl, held, ends, data⟩
    refine ⟨before.map Line.bytes, line.bytes, after.map Line.bytes, ?_, held,
      endsBehind_iff.mpr ends, data⟩
    rw [List.map_append, List.map_cons]

theorem isLine_bytes {lines : List Line} :
    ∀ line ∈ lines.map Line.bytes, IsLine line := by
  intro line member
  obtain ⟨whole, _member, rfl⟩ := List.mem_map.mp member
  exact whole.isLine

theorem feedAll_lines {lines : List Line}
    (chunks : Cutting (lines.map Line.bytes).flatten) :
    (fresh.feedAll chunks.pieces).state =
      settle (runCut (endsBehind chunks.pieces) [] fresh.state
        (lines.map Line.bytes)) [] := by
  have run := @feedAll_runCut (endsBehind chunks.pieces) [] chunks.pieces
    (lines.map Line.bytes) [] fresh.state isLine_bytes rfl chunks.joined
    (fun _empty => rfl) fun now _present _isPrefix => endsBehind_iff
  exact congrArg Fed.state run

theorem feed_lines (lines : List Line) :
    (fresh.feed (lines.map Line.bytes).flatten).state =
      settle ((lines.map Line.bytes).foldl processLine fresh.state) [] := by
  have run := @Feeder.drain_records _ _ pop3Feeder processLine
    (lines.map Line.bytes) []
    (fun line member => lineFeeder_step (isLine_bytes line member))
    Feeder.step_nil fresh.state
  rw [List.append_nil] at run
  exact congrArg
    (fun fed : Fed POP3State UInt8 => settle fed.state fed.buffer) run

/-- Chunks make no difference exactly where they do not cut a response off
behind its first line. -/
theorem pop3_chunks_iff (lines : List Line)
    (chunks : Cutting (lines.map Line.bytes).flatten) :
    ((fresh.feedAll chunks.pieces).state.commands =
          (fresh.feed (lines.map Line.bytes).flatten).state.commands ∧
        (fresh.feedAll chunks.pieces).state.responses =
          (fresh.feed (lines.map Line.bytes).flatten).state.responses) ↔
      ¬CutResponse chunks.pieces lines := by
  have sound : Sound fresh.state := fun inside => Bool.noConfusion inside
  rw [feedAll_lines, feed_lines, ← heldCut_lines]
  constructor
  · rintro ⟨commands, responses⟩ lost
    have start : Ahead 0 fresh.state fresh.state :=
      ⟨sound, sound, Or.inl rfl, le_rfl⟩
    have more := (ahead_heldCut start (fun _cut held => by cases held)
      lost).total_lt
    unfold total at more
    rw [commands, responses] at more
    exact lt_irrefl _ more
  · intro kept
    have same := settled_run sound (Or.inl rfl) kept
    rw [same]
    exact ⟨rfl, rfl⟩

def listing : List Line :=
  [{ bytes := asciiBytes "+OK 2 messages" ++ crlf
     isLine := isLine_of_free (by decide) },
    { bytes := asciiBytes "1 120" ++ crlf
      isLine := isLine_of_free (by decide) },
    { bytes := asciiBytes "." ++ crlf
      isLine := isLine_of_free (by decide) }]

/-- The listing, cut behind its first line. -/
def cutListing : Cutting (listing.map Line.bytes).flatten where
  pieces :=
    [asciiBytes "+OK 2 messages" ++ crlf, asciiBytes "1 120\r\n.\r\n"]
  joined := by decide

/-- Data of the response becomes a command. -/
theorem cutListing_commands :
    (fresh.feedAll cutListing.pieces).state.commands ≠
      (fresh.feed (listing.map Line.bytes).flatten).state.commands := by
  rw [feedAll_lines, feed_lines]
  decide +kernel

end DpktNg.Pop3
