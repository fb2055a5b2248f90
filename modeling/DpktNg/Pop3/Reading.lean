/-
How the POP3 parser reads line after line, and what it makes of cuts right
behind a line.  Two runs over the same lines are compared: one that comes to
cuts, and one that does not.
-/

import DpktNg.Pop3.StreamParser

namespace DpktNg.Pop3

open Library POP3

/-- Between responses; behind a `+OK` line that may go on; in a multi-line
response. -/
inductive Reading where
  | idle
  | held
  | collecting
  deriving DecidableEq

/-- A `+OK` line with a space, which may begin a multi-line response. -/
def mayGoOn (stripped : Bytes) : Bool :=
  0x20 ∈ stripped ∧ ¬errPrefix.isPrefixOf stripped

namespace Reading

def ofStatus (stripped : Bytes) : Reading :=
  if mayGoOn stripped then held else idle

def ofData (stripped : Bytes) : Reading :=
  if stripped = terminator then idle else collecting

def next (reading : Reading) (line : Bytes) : Reading :=
  let stripped := rstripLine line
  match reading with
  | idle => if isStatus stripped then ofStatus stripped else idle
  | held => if isStatus stripped then ofStatus stripped else ofData stripped
  | collecting => ofData stripped

/-- The line belongs to what came before. -/
def belongs (reading : Reading) (line : Bytes) : Bool :=
  match reading with
  | idle => false
  | held => !isStatus (rstripLine line)
  | collecting => true

end Reading

namespace POP3

def reading (state : POP3State) : Reading :=
  if state.inMultiline then .collecting
  else if state.pending.isSome then .held
  else .idle

def total (state : POP3State) : Nat :=
  state.commands.length + state.responses.length

def begun (state : POP3State) : Nat :=
  total state + if reading state = .idle then 0 else 1

/-- Nothing is pending in a multi-line response. -/
def Sound (state : POP3State) : Prop :=
  state.inMultiline = true → state.pending = none

theorem reading_idle {state : POP3State} (idle : reading state = .idle) :
    state.inMultiline = false ∧ state.pending = none := by
  unfold reading at idle
  split_ifs at idle with collecting held
  exact ⟨Bool.eq_false_iff.mpr collecting, Option.not_isSome_iff_eq_none.mp held⟩

theorem reading_held {state : POP3State} (held : reading state = .held) :
    state.inMultiline = false ∧ ∃ line, state.pending = some line := by
  unfold reading at held
  split_ifs at held with collecting some
  exact ⟨Bool.eq_false_iff.mpr collecting, Option.isSome_iff_exists.mp some⟩

theorem reading_collecting {state : POP3State}
    (collecting : reading state = .collecting) : state.inMultiline = true := by
  unfold reading at collecting
  split_ifs at collecting with inside held
  exact inside

/-- What is known of a state: how it reads on, and what it has begun. -/
structure Knows (state : POP3State) (reads : Reading) (count : Nat) : Prop where
  reading_eq : reading state = reads
  begun_eq : begun state = count
  sound : Sound state

theorem knows_idle {state : POP3State} (outside : state.inMultiline = false)
    (nothing : state.pending = none) : Knows state .idle (total state) := by
  have idle : reading state = .idle := by
    unfold reading
    rw [outside, nothing]
    rfl
  refine ⟨idle, ?_, fun inside => ?_⟩
  · unfold begun
    rw [if_pos idle, Nat.add_zero]
  · rw [outside] at inside
    cases inside

theorem knows_held {state : POP3State} {line : Bytes}
    (outside : state.inMultiline = false) (pending : state.pending = some line) :
    Knows state .held (total state + 1) := by
  have held : reading state = .held := by
    unfold reading
    rw [outside, pending]
    rfl
  refine ⟨held, ?_, fun inside => ?_⟩
  · unfold begun
    rw [held]
    rfl
  · rw [outside] at inside
    cases inside

theorem knows_collecting {state : POP3State} (inside : state.inMultiline = true)
    (nothing : state.pending = none) :
    Knows state .collecting (total state + 1) := by
  have collecting : reading state = .collecting := by
    unfold reading
    rw [inside]
    rfl
  refine ⟨collecting, ?_, fun _inside => nothing⟩
  unfold begun
  rw [collecting]
  rfl

@[simp] theorem respond_total (state : POP3State) (raw : Bytes) :
    total (respond state raw) = total state + 1 := by
  unfold total respond
  rw [List.length_append, List.length_singleton, Nat.add_assoc]

theorem command_total (state : POP3State) (command : POP3Command) :
    total { state with commands := state.commands ++ [command], pending := none }
      = total state + 1 := by
  unfold total
  dsimp only
  rw [List.length_append, List.length_singleton]
  omega

theorem flushPending_knows {state : POP3State}
    (outside : state.inMultiline = false) :
    Knows (flushPending state) .idle (begun state) ∧
      total (flushPending state) = begun state := by
  cases pending : state.pending with
  | none =>
      have idle := knows_idle outside pending
      unfold flushPending
      rw [pending]
      dsimp only
      rw [idle.begun_eq]
      exact ⟨idle, rfl⟩
  | some held =>
      have begins := (knows_held outside pending).begun_eq
      have flushed : flushPending state =
          { respond state held with pending := none } := by
        unfold flushPending
        rw [pending]
      rw [flushed, begins, ← respond_total state held]
      exact ⟨knows_idle outside rfl, rfl⟩

theorem addLine_knows {state : POP3State} (inside : state.inMultiline = true)
    (nothing : state.pending = none) (stripped : Bytes) :
    Knows (addLine state stripped) (.ofData stripped) (total state + 1) := by
  unfold addLine Reading.ofData
  dsimp only
  by_cases ends : stripped = terminator
  · rw [if_pos ends, if_pos ends, ← respond_total state
      (crlf.intercalate (state.mlBuffer ++ [stripped]) ++ crlf)]
    exact knows_idle rfl nothing
  · rw [if_neg ends, if_neg ends]
    exact knows_collecting inside nothing

theorem reading_outside {state : POP3State}
    (outside : state.inMultiline = false) : reading state ≠ .collecting := by
  intro collecting
  rw [reading_collecting collecting] at outside
  cases outside

theorem processLine_status {state : POP3State}
    (outside : state.inMultiline = false) {line : Bytes}
    (status : isStatus (rstripLine line) = true) :
    processLine state line =
      if 0x20 ∉ rstripLine line ∨
          errPrefix.isPrefixOf (rstripLine line) = true then
        respond (flushPending state) line
      else { flushPending state with pending := some line } := by
  unfold processLine
  dsimp only
  rw [if_neg (by rw [outside]; exact Bool.false_ne_true), if_pos status]

theorem processStatus_knows {state : POP3State}
    (outside : state.inMultiline = false) {line : Bytes}
    (status : isStatus (rstripLine line) = true) :
    Knows (processLine state line) (.ofStatus (rstripLine line))
      (begun state + 1) := by
  obtain ⟨⟨_idle, _begun, _sound⟩, count⟩ := flushPending_knows outside
  have flushed : (flushPending state).inMultiline = false ∧
      (flushPending state).pending = none := reading_idle _idle
  unfold Reading.ofStatus mayGoOn
  rw [processLine_status outside status, ← count]
  by_cases goesOn : 0x20 ∈ rstripLine line ∧
      ¬errPrefix.isPrefixOf (rstripLine line) = true
  · rw [if_neg (by rw [not_or, not_not]; exact goesOn),
      if_pos (decide_eq_true goesOn)]
    exact knows_held flushed.1 rfl
  · rw [if_pos (by rw [or_iff_not_and_not, not_not]; exact goesOn),
      if_neg (by rw [decide_eq_true_iff]; exact goesOn),
      ← respond_total (flushPending state) line]
    exact knows_idle flushed.1 flushed.2

theorem processLine_knows {state : POP3State} (sound : Sound state)
    (line : Bytes) :
    Knows (processLine state line) ((reading state).next line)
      (begun state + if (reading state).belongs line then 0 else 1) := by
  by_cases inside : state.inMultiline = true
  · have nothing := sound inside
    obtain ⟨collecting, begins, _sound⟩ := knows_collecting inside nothing
    unfold processLine
    dsimp only
    rw [if_pos inside, collecting, begins]
    exact addLine_knows inside nothing (rstripLine line)
  · have outside := Bool.eq_false_iff.mpr inside
    by_cases status : isStatus (rstripLine line) = true
    · have known := processStatus_knows outside status
      cases pending : state.pending with
      | none =>
          rw [(knows_idle outside pending).reading_eq]
          unfold Reading.next Reading.belongs
          dsimp only
          rw [if_pos status, if_neg Bool.false_ne_true]
          exact known
      | some held =>
          rw [(knows_held outside pending).reading_eq]
          unfold Reading.next Reading.belongs
          dsimp only
          rw [if_pos status, status, Bool.not_true, if_neg Bool.false_ne_true]
          exact known
    · unfold processLine
      dsimp only
      rw [if_neg inside, if_neg status]
      cases pending : state.pending with
      | none =>
          obtain ⟨idle, begins, _sound⟩ := knows_idle outside pending
          rw [idle, begins]
          unfold Reading.next Reading.belongs
          dsimp only
          rw [if_neg status, if_neg Bool.false_ne_true]
          rw [← command_total state (POP3Command.parse line)]
          exact knows_idle outside rfl
      | some held =>
          obtain ⟨isHeld, begins, _sound⟩ := knows_held outside pending
          rw [isHeld, begins]
          unfold Reading.next Reading.belongs
          dsimp only
          rw [if_neg status, Bool.eq_false_iff.mpr status, Bool.not_false,
            if_pos rfl]
          exact @addLine_knows
            { state with
              inMultiline := true
              mlBuffer := [rstripLine held]
              pending := none }
            rfl rfl (rstripLine line)

/-- The reading behind a chunk that ends with a line. -/
def settled : Reading → Reading
  | .collecting => .collecting
  | _ => .idle

theorem settle_inside {state : POP3State} (inside : state.inMultiline = true) :
    settle state [] = state := by
  unfold settle
  rw [if_neg]
  rw [inside]
  exact fun both => Bool.noConfusion both.1

theorem settle_outside {state : POP3State}
    (outside : state.inMultiline = false) :
    settle state [] = flushPending state := if_pos ⟨outside, rfl⟩

theorem settled_outside {reads : Reading} (other : reads ≠ .collecting) :
    settled reads = .idle := by
  cases reads with
  | idle => rfl
  | held => rfl
  | collecting => exact absurd rfl other

theorem settle_knows {state : POP3State} (sound : Sound state) :
    Knows (settle state []) (settled (reading state)) (begun state) := by
  by_cases inside : state.inMultiline = true
  · have known := knows_collecting inside (sound inside)
    rw [settle_inside inside, known.reading_eq, known.begun_eq]
    exact known
  · have outside := Bool.eq_false_iff.mpr inside
    rw [settle_outside outside, settled_outside (reading_outside outside)]
    exact (flushPending_knows outside).1

/-- Nothing is left to settle. -/
theorem settle_eq_self {state : POP3State} (none : state.pending = none) :
    settle state [] = state := by
  unfold settle flushPending
  rw [none]
  exact ite_self state

theorem flushPending_pending (state : POP3State) :
    (flushPending state).pending = none := by
  unfold flushPending
  split
  · rfl
  · assumption

theorem settle_settle (state : POP3State) :
    settle (settle state []) [] = settle state [] := by
  by_cases inside : state.inMultiline = true
  · rw [settle_inside inside, settle_inside inside]
  · rw [settle_outside (Bool.eq_false_iff.mpr inside)]
    exact settle_eq_self (flushPending_pending state)

theorem total_settle {state : POP3State} (sound : Sound state) :
    total (settle state []) =
      begun state - if reading state = .collecting then 1 else 0 := by
  by_cases inside : state.inMultiline = true
  · have known := knows_collecting inside (sound inside)
    rw [settle_inside inside, known.reading_eq, known.begun_eq, if_pos rfl]
    rfl
  · have outside := Bool.eq_false_iff.mpr inside
    rw [settle_outside outside, if_neg (reading_outside outside)]
    exact (flushPending_knows outside).2

/-- The reading of a run that comes to cuts, beside that of one that does
not. -/
def Beside (cut whole : Reading) : Prop :=
  cut = whole ∨ whole = .collecting ∨ (cut = .idle ∧ whole = .held)

theorem isStatus_terminator : isStatus terminator = false := by decide

theorem Beside.next {cut whole : Reading} (beside : Beside cut whole)
    (line : Bytes) : Beside (cut.next line) (whole.next line) := by
  rcases beside with rfl | rfl | ⟨rfl, rfl⟩
  · exact Or.inl rfl
  · by_cases ends : rstripLine line = terminator
    · -- the terminator leads both runs to the same place
      refine Or.inl ?_
      cases cut <;>
        simp [Reading.next, Reading.ofData, ends, isStatus_terminator]
    · refine Or.inr (Or.inl ?_)
      unfold Reading.next Reading.ofData
      exact if_neg ends
  · unfold Reading.next
    dsimp only
    split
    · exact Or.inl rfl
    · unfold Reading.ofData
      split
      · exact Or.inl rfl
      · exact Or.inr (Or.inl rfl)

theorem Beside.settled {cut whole : Reading} (beside : Beside cut whole) :
    Beside (settled cut) whole := by
  rcases beside with rfl | rfl | ⟨rfl, rfl⟩
  · cases cut with
    | idle => exact Or.inl rfl
    | held => exact Or.inr (Or.inr ⟨rfl, rfl⟩)
    | collecting => exact Or.inl rfl
  · exact Or.inr (Or.inl rfl)
  · exact Or.inr (Or.inr ⟨rfl, rfl⟩)

/-- Where a line belongs to what came before in the run with cuts, it does so
in the other. -/
theorem Beside.belongs {cut whole : Reading} (beside : Beside cut whole)
    {line : Bytes} (belongs : cut.belongs line = true) :
    whole.belongs line = true := by
  rcases beside with rfl | rfl | ⟨rfl, rfl⟩
  · exact belongs
  · rfl
  · cases belongs

/-- The run with cuts has begun as much as the other, and so much more. -/
structure Ahead (more : Nat) (cut whole : POP3State) : Prop where
  cutSound : Sound cut
  wholeSound : Sound whole
  beside : Beside (reading cut) (reading whole)
  more_le : begun whole + more ≤ begun cut

variable {more : Nat} {cut whole : POP3State}

theorem Ahead.line (ahead : Ahead more cut whole) (line : Bytes) :
    Ahead more (processLine cut line) (processLine whole line) := by
  have known := processLine_knows ahead.cutSound line
  have knownWhole := processLine_knows ahead.wholeSound line
  have le := ahead.more_le
  refine ⟨known.sound, knownWhole.sound, ?_, ?_⟩
  · rw [known.reading_eq, knownWhole.reading_eq]
    exact ahead.beside.next line
  · rw [known.begun_eq, knownWhole.begun_eq]
    by_cases belongs : (reading cut).belongs line = true
    · rw [if_pos belongs, if_pos (ahead.beside.belongs belongs)]
      exact le
    · rw [if_neg belongs]
      split <;> omega

/-- A line that goes on with a response, which the other run has given away. -/
theorem Ahead.lost (ahead : Ahead more cut whole) {line : Bytes}
    (idle : reading cut = .idle) (held : reading whole = .held)
    (data : isStatus (rstripLine line) = false) :
    Ahead (more + 1) (processLine cut line) (processLine whole line) := by
  have known := processLine_knows ahead.cutSound line
  have knownWhole := processLine_knows ahead.wholeSound line
  have next := ahead.line line
  have le := ahead.more_le
  have alone : (reading cut).belongs line = false := by
    rw [idle]
    rfl
  have together : (reading whole).belongs line = true := by
    rw [held]
    unfold Reading.belongs
    dsimp only
    rw [data]
    rfl
  refine ⟨next.cutSound, next.wholeSound, next.beside, ?_⟩
  rw [known.begun_eq, knownWhole.begun_eq, alone, together, if_pos rfl,
    if_neg Bool.false_ne_true]
  omega

theorem Ahead.settle (ahead : Ahead more cut whole) :
    Ahead more (settle cut []) whole := by
  have known := settle_knows ahead.cutSound
  refine ⟨known.sound, ahead.wholeSound, ?_, ?_⟩
  · rw [known.reading_eq]
    exact ahead.beside.settled
  · rw [known.begun_eq]
    exact ahead.more_le

/-- At the end it has more commands and responses. -/
theorem Ahead.total_lt (ahead : Ahead 1 cut whole) :
    total (POP3.settle whole []) < total (POP3.settle cut []) := by
  have le := ahead.more_le
  rw [total_settle ahead.wholeSound, total_settle ahead.cutSound]
  by_cases collecting : reading whole = .collecting
  · have positive : 0 < begun whole := by
      unfold begun
      rw [collecting]
      exact Nat.succ_pos _
    rw [if_pos collecting]
    split <;> omega
  · have notInside : reading cut ≠ .collecting := by
      rcases ahead.beside with same | inside | ⟨idle, _held⟩
      · rw [same]
        exact collecting
      · exact absurd inside collecting
      · rw [idle]
        nofun
    rw [if_neg collecting, if_neg notInside]
    omega

end POP3

end DpktNg.Pop3
