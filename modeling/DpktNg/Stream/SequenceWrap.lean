/-
Sequence numbers that wrap.  TCP numbers the bytes of a stream modulo 2^32
while `feed` and `is_complete` subtract the initial sequence number as plain
integers, so a segment whose number has wrapped gets a negative offset.

Two runs over the same stream behave alike exactly as long as each numbered
position wraps in both of them or in neither.
-/

import DpktNg.Stream.Reassembly

namespace DpktNg.Stream

open Library DirectionBuffer

/-- The sequence number of a stream position, counted modulo 2^32. -/
def wrappedNumber (isn position : Nat) : Int :=
  ((isn + 1 + position) % 2 ^ 32 : Nat)

def Wraps (isn position : Nat) : Prop := 2 ^ 32 ≤ isn + 1 + position

instance (isn position : Nat) : Decidable (Wraps isn position) :=
  inferInstanceAs (Decidable (2 ^ 32 ≤ isn + 1 + position))

theorem wrappedNumber_of_not_wraps {isn position : Nat}
    (low : ¬Wraps isn position) :
    wrappedNumber isn position = isn + 1 + position := by
  unfold Wraps at low
  unfold wrappedNumber
  omega

theorem wrappedNumber_of_wraps {isn position : Nat} (isnRange : isn < 2 ^ 32)
    (short : position < 2 ^ 31) (high : Wraps isn position) :
    wrappedNumber isn position = isn + 1 + position - 2 ^ 32 := by
  unfold Wraps at high
  unfold wrappedNumber
  omega

theorem wrappedNumber_le (isn position : Nat) :
    wrappedNumber isn position ≤ isn + 1 + position := by
  unfold wrappedNumber
  omega

/-- What a caller sees after each call: the result and `is_complete`. -/
def observer : Machine DirectionBuffer Call (Option Bytes × Bool) :=
  ⟨fun buf call =>
    let (next, result) := buf.call call
    (next, (result, next.isComplete))⟩

def observations (isn ack : Nat) (stream : Bytes) (steps : List StreamStep) :
    List (Option Bytes × Bool) :=
  observer.trace (opened isn ack)
    (steps.map (StreamStep.toCall stream (wrappedNumber isn) false))

/-- Every segment starts at a position of the stream or at its end. -/
def StreamStep.StartsWithin (stream : Bytes) : StreamStep → Prop
  | .segment start _ _ _ _ => start ≤ stream.length
  | .pull => True

/-- The step carries neither data nor a FIN, or its sequence number wraps in
both runs or in neither. -/
def StreamStep.WrapsAlike (first second : Nat) (stream : Bytes) :
    StreamStep → Prop
  | .segment start stop _ flags _ =>
      (slice stream start stop = [] ∧ flags &&& thFin = 0) ∨
        (Wraps first start ↔ Wraps second start)
  | .pull => True

/-! ### Renumbering a buffer -/

/-- The same buffer counted from another initial sequence number. -/
def renumber (first second : Int) (buf : DirectionBuffer) : DirectionBuffer :=
  { buf with
    isn := some second
    finSeq := buf.finSeq.map fun finSeq => finSeq - first + second }

theorem feedPayload_renumber (first second : Int) (buf : DirectionBuffer)
    (relSeq ack : Int) (payload : Bytes) :
    (renumber first second buf).feedPayload relSeq ack payload =
      renumber first second (buf.feedPayload relSeq ack payload) := by
  unfold feedPayload
  simp only [apply_ite (renumber first second)]
  rfl

theorem feedPayload_isn (buf : DirectionBuffer) (relSeq ack : Int)
    (payload : Bytes) :
    (buf.feedPayload relSeq ack payload).isn = buf.isn := by
  unfold feedPayload
  repeat' split
  all_goals rfl

theorem isComplete_renumber {first second : Int} {buf : DirectionBuffer}
    (isn_eq : buf.isn = some first) :
    (renumber first second buf).isComplete = buf.isComplete := by
  unfold isComplete
  simp only [renumber, isn_eq]
  cases buf.finSeq with
  | none => rfl
  | some finSeq =>
      have shift : finSeq - first + second - second = finSeq - first := by
        omega
      simp only [Option.map_some, shift]

/-- Two calls that differ only in how the sequence number is counted. -/
inductive SameOffset (first second : Int) : Call → Call → Prop
  | feed {seq seq' : Int} (ack : Int) (payload : Bytes) (flags : Nat)
      (noSyn : flags &&& thSyn = 0)
      (alike : (payload = [] ∧ flags &&& thFin = 0) ∨
        seq - first = seq' - second) :
      SameOffset first second (.feed seq ack payload flags)
        (.feed seq' ack payload flags)
  | getData (fill : Bool) :
      SameOffset first second (.getData fill) (.getData fill)

def Renumbered (first second : Int) (buf buf' : DirectionBuffer) : Prop :=
  buf.isn = some first ∧ buf' = renumber first second buf

theorem feed_renumbered {first second : Int} {buf : DirectionBuffer}
    (isn_eq : buf.isn = some first) {seq seq' : Int} (ack : Int)
    (payload : Bytes) (flags : Nat) (noSyn : flags &&& thSyn = 0)
    (alike : (payload = [] ∧ flags &&& thFin = 0) ∨
      seq - first = seq' - second) :
    Renumbered first second (buf.feed seq ack payload flags)
      ((renumber first second buf).feed seq' ack payload flags) := by
  have isn_eq' : (renumber first second buf).isn = some second := rfl
  unfold feed
  rw [if_neg (not_not_intro noSyn), if_neg (not_not_intro noSyn), isn_eq,
    isn_eq']
  dsimp only
  unfold noteFin
  rcases alike with ⟨empty, noFin⟩ | offset
  · -- an acknowledgement changes neither buffer
    rw [if_neg (not_not_intro noFin), if_neg (not_not_intro noFin), empty]
    unfold feedPayload
    rw [if_pos rfl, if_pos rfl]
    exact ⟨isn_eq, rfl⟩
  · by_cases fin : flags &&& thFin ≠ 0
    · rw [if_pos fin, if_pos fin, ← offset]
      refine ⟨by rw [feedPayload_isn]; exact isn_eq, ?_⟩
      rw [← feedPayload_renumber]
      congr 1
      simp only [renumber, Option.map_some, DirectionBuffer.mk.injEq,
        Option.some.injEq, true_and, and_true]
      omega
    · rw [if_neg fin, if_neg fin, ← offset]
      refine ⟨by rw [feedPayload_isn]; exact isn_eq, ?_⟩
      exact feedPayload_renumber first second buf (seq - first) ack payload

theorem renumbered_step {first second : Int} (buf buf' : DirectionBuffer)
    (call call' : Call) (renumbered : Renumbered first second buf buf')
    (same : SameOffset first second call call') :
    Renumbered first second (observer.step buf call).1
        (observer.step buf' call').1 ∧
      (observer.step buf call).2 = (observer.step buf' call').2 := by
  obtain ⟨isn_eq, rfl⟩ := renumbered
  cases same with
  | feed ack payload flags noSyn alike =>
      have next := feed_renumbered isn_eq ack payload flags noSyn alike
      refine ⟨next, ?_⟩
      simp only [observer, DirectionBuffer.call]
      rw [next.2, isComplete_renumber next.1]
  | getData fill =>
      have next : Renumbered first second (buf.getData fill).1
          ((renumber first second buf).getData fill).1 := by
        cases fill <;> exact ⟨isn_eq, rfl⟩
      refine ⟨next, ?_⟩
      have sameData : ((renumber first second buf).getData fill).2 =
          (buf.getData fill).2 := by
        cases fill <;> rfl
      simp only [observer, DirectionBuffer.call]
      rw [next.2, isComplete_renumber next.1, sameData]

section TwoRuns

variable {first second : Nat} (firstRange : first < 2 ^ 32)
  (secondRange : second < 2 ^ 32) {stream : Bytes}
  (short : stream.length < 2 ^ 31)

include firstRange secondRange short

theorem wrappedNumber_sameOffset {position : Nat}
    (within : position ≤ stream.length)
    (alike : Wraps first position ↔ Wraps second position) :
    wrappedNumber first position - first =
      wrappedNumber second position - second := by
  by_cases wraps : Wraps first position
  · rw [wrappedNumber_of_wraps firstRange (by omega) wraps,
      wrappedNumber_of_wraps secondRange (by omega) (alike.mp wraps)]
    omega
  · rw [wrappedNumber_of_not_wraps wraps,
      wrappedNumber_of_not_wraps (fun high => wraps (alike.mpr high))]
    omega

theorem observations_eq_of_wrapsAlike (ack : Nat) (steps : List StreamStep)
    (within : ∀ step ∈ steps, step.StartsWithin stream)
    (alike : ∀ step ∈ steps, step.WrapsAlike first second stream) :
    observations first ack stream steps =
      observations second ack stream steps := by
  have matched : List.Forall₂ (SameOffset first second)
      (steps.map (StreamStep.toCall stream (wrappedNumber first) false))
      (steps.map (StreamStep.toCall stream (wrappedNumber second) false)) := by
    rw [List.forall₂_map_left_iff, List.forall₂_map_right_iff,
      List.forall₂_same]
    intro step member
    have starts := within step member
    have wraps := alike step member
    cases step with
    | pull => exact .getData false
    | segment start stop segAck flags noSyn =>
        refine .feed segAck _ flags noSyn ?_
        rcases wraps with harmless | sameSide
        · exact Or.inl harmless
        · exact Or.inr
            (wrappedNumber_sameOffset firstRange secondRange short starts
              sameSide)
  exact (observer.simulation observer (Renumbered first second)
    (SameOffset first second) renumbered_step _ _ matched
    (opened first ack) (opened second ack) ⟨rfl, rfl⟩).2

end TwoRuns

/-! ### The empty stream -/

/-- With no data to carry, a run only records FINs that lie before
`next_seq`. -/
structure EmptyRun (isn : Int) (buf : DirectionBuffer) : Prop where
  isn_eq : buf.isn = some isn
  nextSeq : buf.nextSeq = 1
  synReceived : buf.synReceived = true
  contiguous : buf.contiguous = []
  segments : buf.segments = []
  fin_le : ∀ finSeq, buf.finSeq = some finSeq → finSeq - isn ≤ 1

def EmptyAlike (first second : Int) (buf buf' : DirectionBuffer) : Prop :=
  EmptyRun first buf ∧ EmptyRun second buf' ∧
    buf.finReceived = buf'.finReceived ∧
    buf.finSeq.isSome = buf'.finSeq.isSome

theorem EmptyRun.isComplete {isn : Int} {buf : DirectionBuffer}
    (empty : EmptyRun isn buf) :
    buf.isComplete = (buf.finSeq.isSome && buf.finReceived) := by
  unfold DirectionBuffer.isComplete
  rw [empty.isn_eq, empty.nextSeq, empty.segments, empty.synReceived]
  cases finAt : buf.finSeq with
  | none => rfl
  | some finSeq =>
      have low := empty.fin_le finSeq finAt
      simp [low]

theorem EmptyRun.feed {isn : Int} {buf : DirectionBuffer}
    (empty : EmptyRun isn buf) (seq ack : Int) (flags : Nat)
    (noSyn : flags &&& thSyn = 0) (low : seq - isn ≤ 1) :
    EmptyRun isn (buf.feed seq ack [] flags) ∧
      buf.feed seq ack [] flags = buf.noteFin seq [] flags := by
  have same : buf.feed seq ack [] flags = buf.noteFin seq [] flags := by
    unfold DirectionBuffer.feed feedPayload
    rw [if_neg (not_not_intro noSyn), empty.isn_eq]
    dsimp only
    rw [if_pos rfl]
  refine ⟨?_, same⟩
  rw [same]
  unfold noteFin
  split
  · exact
      { isn_eq := empty.isn_eq
        nextSeq := empty.nextSeq
        synReceived := empty.synReceived
        contiguous := empty.contiguous
        segments := empty.segments
        fin_le := by
          intro finSeq finAt
          simp only [List.length_nil, Option.some.injEq] at finAt
          omega }
  · exact empty

theorem emptyAlike_step {first second : Int} (buf buf' : DirectionBuffer)
    (call call' : Call) (alike : EmptyAlike first second buf buf')
    (same : ∃ step : StreamStep, ∃ number number' : Nat → Int,
      (∀ position, number position ≤ first + 1 + position) ∧
        (∀ position, number' position ≤ second + 1 + position) ∧
        step.StartsWithin [] ∧ call = step.toCall [] number false ∧
        call' = step.toCall [] number' false) :
    EmptyAlike first second (observer.step buf call).1
        (observer.step buf' call').1 ∧
      (observer.step buf call).2 = (observer.step buf' call').2 := by
  obtain ⟨empty, empty', sameFlag, sameFin⟩ := alike
  obtain ⟨step, number, number', low, low', starts, rfl, rfl⟩ := same
  cases step with
  | pull =>
      have next : EmptyAlike first second (buf.getData false).1
          (buf'.getData false).1 :=
        ⟨{ empty with contiguous := rfl }, { empty' with contiguous := rfl },
          sameFlag, sameFin⟩
      refine ⟨next, ?_⟩
      have result : (buf.getData false).2 = (buf'.getData false).2 :=
        empty.contiguous.trans empty'.contiguous.symm
      change (some (buf.getData false).2, (buf.getData false).1.isComplete) =
        (some (buf'.getData false).2, (buf'.getData false).1.isComplete)
      rw [result, next.1.isComplete, next.2.1.isComplete, next.2.2.1,
        next.2.2.2]
  | segment start stop ack flags noSyn =>
      have atStart : start = 0 := Nat.le_zero.mp starts
      have noData : slice ([] : Bytes) start stop = [] := by simp [slice]
      have bound := low start
      have bound' := low' start
      have fed := empty.feed (number start) ack flags noSyn (by omega)
      have fed' := empty'.feed (number' start) ack flags noSyn (by omega)
      have next : EmptyAlike first second
          (buf.feed (number start) ack [] flags)
          (buf'.feed (number' start) ack [] flags) := by
        refine ⟨fed.1, fed'.1, ?_, ?_⟩
        · rw [fed.2, fed'.2]
          unfold noteFin
          split <;> simp [sameFlag]
        · rw [fed.2, fed'.2]
          unfold noteFin
          split <;> simp [sameFin]
      simp only [StreamStep.toCall, noData, observer, DirectionBuffer.call]
      refine ⟨next, ?_⟩
      rw [next.1.isComplete, next.2.1.isComplete, next.2.2.1, next.2.2.2]

theorem observations_eq_of_empty (first second ack : Nat)
    (steps : List StreamStep)
    (within : ∀ step ∈ steps, step.StartsWithin []) :
    observations first ack [] steps = observations second ack [] steps := by
  have matched : List.Forall₂
      (fun call call' => ∃ step : StreamStep, ∃ number number' : Nat → Int,
        (∀ position : Nat, number position ≤ (first : Int) + 1 + position) ∧
          (∀ position : Nat,
            number' position ≤ (second : Int) + 1 + position) ∧
          step.StartsWithin [] ∧ call = step.toCall [] number false ∧
          call' = step.toCall [] number' false)
      (steps.map (StreamStep.toCall [] (wrappedNumber first) false))
      (steps.map (StreamStep.toCall [] (wrappedNumber second) false)) := by
    rw [List.forall₂_map_left_iff, List.forall₂_map_right_iff,
      List.forall₂_same]
    intro step member
    exact ⟨step, wrappedNumber first, wrappedNumber second,
      wrappedNumber_le first, wrappedNumber_le second, within step member,
      rfl, rfl⟩
  have fresh : ∀ isn : Nat, EmptyRun isn (opened isn ack) := fun isn =>
    { isn_eq := rfl
      nextSeq := rfl
      synReceived := rfl
      contiguous := rfl
      segments := rfl
      fin_le := fun finSeq finAt => by cases finAt }
  exact (observer.simulation observer (EmptyAlike first second) _
    emptyAlike_step _ _ matched (opened first ack) (opened second ack)
    ⟨fresh first, fresh second, rfl, rfl⟩).2

/-! ### A wrapped segment is lost -/

def StreamStep.numberWraps (isn : Nat) : StreamStep → Bool
  | .segment start _ _ _ _ => Wraps isn start
  | .pull => false

/-- The slices whose sequence numbers stay below 2^32. -/
def unwrappedPositions (isn : Nat) (stream : Bytes)
    (steps : List StreamStep) : Set Nat :=
  fedPositions stream (steps.filter fun step => !step.numberWraps isn)

theorem Reassembled.feed_wrapped {stream : Bytes} {isn : Nat}
    {received : Set Nat} {output : Bytes} {buf : DirectionBuffer}
    (reassembled : Reassembled stream isn received output buf)
    (isnRange : isn < 2 ^ 32) (short : stream.length < 2 ^ 31)
    (start stop : Nat) (starts : start ≤ stream.length)
    (wraps : Wraps isn start) (ack : Int) (flags : Nat)
    (noSyn : flags &&& thSyn = 0) :
    Reassembled stream isn received output
      (buf.feed (wrappedNumber isn start) ack (slice stream start stop)
        flags) := by
  have started := reassembled.wellFormed.started reassembled.isn_ne_none
  have size := slice_length stream start stop
  have sameNext : (buf.noteFin (wrappedNumber isn start)
      (slice stream start stop) flags).nextSeq = buf.nextSeq := by
    unfold DirectionBuffer.noteFin
    split <;> rfl
  unfold DirectionBuffer.feed
  rw [if_neg (not_not_intro noSyn), reassembled.isn_eq]
  dsimp only
  rw [wrappedNumber_of_wraps isnRange (by omega) wraps]
  rw [wrappedNumber_of_wraps isnRange (by omega) wraps] at sameNext
  have noted := reassembled.noteFin ((isn : Int) + 1 + start - 2 ^ 32)
    (slice stream start stop) flags
  unfold DirectionBuffer.feedPayload
  by_cases empty : slice stream start stop = []
  · rw [if_pos empty]
    exact noted
  · rw [if_neg empty, if_pos (by rw [sameNext]; omega)]
    exact noted

theorem run_unwrapped {isn : Nat} (isnRange : isn < 2 ^ 32) (ack : Nat)
    {stream : Bytes} (short : stream.length < 2 ^ 31)
    (steps : List StreamStep)
    (within : ∀ step ∈ steps, step.StartsWithin stream) :
    let calls :=
      steps.map (StreamStep.toCall stream (wrappedNumber isn) false)
    Reassembled stream isn (unwrappedPositions isn stream steps)
      (delivered (machine.trace (opened isn ack) calls))
      (machine.run (opened isn ack) calls) := by
  induction steps using List.reverseRecOn with
  | nil =>
      have nothing : unwrappedPositions isn stream [] = ∅ := by
        ext position
        simp [unwrappedPositions, fedPositions]
      rw [nothing]
      exact reassembled_opened stream isn ack
  | append_singleton before step ih =>
      have earlier := ih fun other member =>
        within other (List.mem_append_left [step] member)
      have starts := within step
        (List.mem_append_right before List.mem_cons_self)
      dsimp only at earlier ⊢
      rw [List.map_append, List.map_singleton, machine.run_snoc,
        machine.trace_snoc, delivered_snoc]
      unfold unwrappedPositions at earlier ⊢
      rw [List.filter_append]
      cases step with
      | pull =>
          change Reassembled stream isn
            (fedPositions stream (_ ++ [.pull])) _ _
          rw [fedPositions_snoc]
          change Reassembled stream isn (_ ∪ ∅) _ _
          rw [Set.union_empty]
          exact earlier.getData
      | segment start stop segAck flags noSyn =>
          change Reassembled stream isn _ (_ ++ []) _
          rw [List.append_nil]
          by_cases wraps : Wraps isn start
          · have dropped : [StreamStep.segment start stop segAck flags
                noSyn].filter (fun step => !step.numberWraps isn) = [] := by
              simp [StreamStep.numberWraps, wraps]
            rw [dropped, List.append_nil]
            exact earlier.feed_wrapped isnRange short start stop starts wraps
              segAck flags noSyn
          · have kept : [StreamStep.segment start stop segAck flags
                noSyn].filter (fun step => !step.numberWraps isn) =
                [.segment start stop segAck flags noSyn] := by
              simp [StreamStep.numberWraps, wraps]
            rw [kept, fedPositions_snoc]
            exact earlier.feed start stop _ segAck flags noSyn
              (wrappedNumber_of_not_wraps wraps)

/-! ### Exactly when wrapping goes unnoticed -/

theorem observer_results (buf : DirectionBuffer) (calls : List Call) :
    (observer.trace buf calls).map Prod.fst = machine.trace buf calls := by
  induction calls generalizing buf with
  | nil => rfl
  | cons call rest ih =>
      rw [Machine.trace_cons, Machine.trace_cons, List.map_cons, ih]
      rfl

/-- A run that pulls the stream up to and including `position`. -/
def pullThrough (position : Nat) : List StreamStep :=
  [.segment 0 position 0 thAck thAck_noSyn,
    .segment position (position + 1) 0 thAck thAck_noSyn, .pull]

/-- A run that only announces the end of the stream. -/
def announceEnd (stream : Bytes) : List StreamStep :=
  [.segment stream.length stream.length 0 thFin rfl]

theorem mem_unwrappedPositions_pullThrough {isn position : Nat}
    {stream : Bytes} (inside : position < stream.length) :
    position ∈ unwrappedPositions isn stream (pullThrough position) ↔
      ¬Wraps isn position := by
  unfold unwrappedPositions fedPositions pullThrough
  simp only [Set.mem_ofPred_eq, List.mem_filter, List.mem_cons,
    List.not_mem_nil, or_false]
  constructor
  · intro present
    obtain ⟨step, ⟨same, unwrapped⟩, member⟩ := present
    rcases same with rfl | rfl | rfl
    · have before : position < position := member.2.1
      omega
    · simpa [StreamStep.numberWraps] using unwrapped
    · cases member
  · intro low
    refine ⟨_, ⟨Or.inr (Or.inl rfl), ?_⟩, ?_⟩
    · simpa [StreamStep.numberWraps] using low
    · exact ⟨Nat.le_refl _, Nat.lt_succ_self _, inside⟩

/-- How many bytes `pullThrough` returns: it stops short of the position if
and only if its number wraps. -/
theorem pullThrough_delivered {isn : Nat} (isnRange : isn < 2 ^ 32)
    (ack : Nat) {stream : Bytes} (short : stream.length < 2 ^ 31)
    {position : Nat} (inside : position < stream.length) :
    position < (delivered ((observations isn ack stream
      (pullThrough position)).map Prod.fst)).length ↔
      ¬Wraps isn position := by
  have within : ∀ step ∈ pullThrough position,
      step.StartsWithin stream := by
    intro step member
    simp only [pullThrough, List.mem_cons, List.not_mem_nil,
      or_false] at member
    rcases member with rfl | rfl | rfl
    · exact Nat.zero_le _
    · exact Nat.le_of_lt inside
    · trivial
  have reassembled := run_unwrapped isnRange ack short (pullThrough position)
    within
  dsimp only at reassembled
  have longest := reassembled.longestPrefix
  have reached := reassembled.reached
  -- the pull at the end leaves no contiguous bytes behind
  have emptied : (machine.run (opened isn ack) ((pullThrough position).map
      (StreamStep.toCall stream (wrappedNumber isn) false))).contiguous =
      [] := rfl
  rw [emptied, List.append_nil] at reached
  rw [observations, observer_results,
    ← mem_unwrappedPositions_pullThrough inside]
  constructor
  · intro beyond
    exact longest.1.2 position (by omega)
  · intro arrived
    by_cases wraps : Wraps isn position
    · exact absurd wraps
        ((mem_unwrappedPositions_pullThrough inside).mp arrived)
    · have all : ∀ earlier < position + 1, earlier ∈
          unwrappedPositions isn stream (pullThrough position) := by
        intro earlier before
        by_cases last : earlier = position
        · rw [last]
          exact arrived
        · refine ⟨.segment 0 position 0 thAck rfl, ?_, ?_⟩
          · simp only [pullThrough, List.mem_filter, List.mem_cons, true_or,
              StreamStep.numberWraps, true_and, Bool.not_eq_true',
              decide_eq_false_iff_not]
            unfold Wraps at wraps ⊢
            omega
          · exact ⟨Nat.zero_le _, by omega, by omega⟩
      have bound := longest.2 ⟨inside, all⟩
      omega

theorem announceEnd_observed (isn ack : Nat) (stream : Bytes) :
    observations isn ack stream (announceEnd stream) =
      [(none, decide (wrappedNumber isn stream.length - isn ≤ 1))] := by
  have noData : slice stream stream.length stream.length = [] := by
    simp [slice]
  have finished : observations isn ack stream (announceEnd stream) =
      [(none, decide ((1 : Int) ≥ wrappedNumber isn stream.length +
        (slice stream stream.length stream.length).length - isn) && true)] := by
    unfold observations announceEnd
    simp only [List.map_cons, List.map_nil, StreamStep.toCall, noData]
    rfl
  rw [finished, noData]
  simp

/-- If a position wraps in one run only, some run tells the two apart. -/
theorem exists_observed_wrap {first second : Nat} (firstRange : first < 2 ^ 32)
    (secondRange : second < 2 ^ 32) (ack : Nat) {stream : Bytes}
    (short : stream.length < 2 ^ 31) (nonempty : stream ≠ [])
    {position : Nat} (within : position ≤ stream.length)
    (high : Wraps first position) (low : ¬Wraps second position) :
    ∃ steps : List StreamStep, (∀ step ∈ steps, step.StartsWithin stream) ∧
      observations first ack stream steps ≠
        observations second ack stream steps := by
  have positive := List.length_pos_iff.mpr nonempty
  by_cases inside : position < stream.length
  · refine ⟨pullThrough position, ?_, ?_⟩
    · intro step member
      simp only [pullThrough, List.mem_cons, List.not_mem_nil,
        or_false] at member
      rcases member with rfl | rfl | rfl
      · exact Nat.zero_le _
      · exact within
      · trivial
    · intro same
      have reaches := (pullThrough_delivered secondRange ack short inside).mpr low
      rw [← same] at reaches
      exact (pullThrough_delivered firstRange ack short inside).mp reaches high
  · have atEnd : position = stream.length := by omega
    rw [atEnd] at high low
    refine ⟨announceEnd stream, ?_, ?_⟩
    · intro step member
      rw [List.mem_singleton.mp member]
      exact Nat.le_refl _
    · rw [announceEnd_observed, announceEnd_observed,
        wrappedNumber_of_wraps firstRange short high,
        wrappedNumber_of_not_wraps low]
      have completeEarly : (first : Int) + 1 + stream.length - 2 ^ 32 -
          first ≤ 1 := by omega
      have openStill : ¬(second : Int) + 1 + stream.length - second ≤ 1 := by
        omega
      rw [decide_eq_true completeEarly, decide_eq_false openStill]
      simp

/-- Runs whose segments wrap alike are observed alike; and all runs over a
stream are, exactly when the stream is empty or every position of it wraps in
both numberings or in neither. -/
theorem wrap_unobserved_iff (first second : Nat) (firstRange : first < 2 ^ 32)
    (secondRange : second < 2 ^ 32) (ack : Nat) (stream : Bytes)
    (short : stream.length < 2 ^ 31) :
    (∀ steps : List StreamStep, (∀ step ∈ steps, step.StartsWithin stream) →
        (∀ step ∈ steps, step.WrapsAlike first second stream) →
        observations first ack stream steps =
          observations second ack stream steps) ∧
      ((∀ steps : List StreamStep,
          (∀ step ∈ steps, step.StartsWithin stream) →
          observations first ack stream steps =
            observations second ack stream steps) ↔
        stream = [] ∨ ∀ position ≤ stream.length,
          (Wraps first position ↔ Wraps second position)) := by
  refine ⟨observations_eq_of_wrapsAlike firstRange secondRange short ack, ?_⟩
  constructor
  · intro unobserved
    by_contra apart
    simp only [not_or, not_forall] at apart
    obtain ⟨nonempty, position, within, different⟩ := apart
    by_cases high : Wraps first position
    · have low : ¬Wraps second position := fun also =>
        different ⟨fun _ => also, fun _ => high⟩
      obtain ⟨steps, starts, observed⟩ := exists_observed_wrap firstRange
        secondRange ack short nonempty within high low
      exact observed (unobserved steps starts)
    · have alsoHigh : Wraps second position := by
        by_contra low
        exact different ⟨fun yes => absurd yes high, fun yes => absurd yes low⟩
      obtain ⟨steps, starts, observed⟩ := exists_observed_wrap secondRange
        firstRange ack short nonempty within alsoHigh high
      exact observed (unobserved steps starts).symm
  · intro condition steps starts
    rcases condition with empty | alike
    · subst stream
      exact observations_eq_of_empty first second ack steps starts
    · apply observations_eq_of_wrapsAlike firstRange secondRange short ack
        steps starts
      intro step member
      cases step with
      | pull => trivial
      | segment start stop segAck flags noSyn =>
          exact Or.inr (alike start (starts _ member))

/-- The second byte is numbered 1002, or 0 behind the wrap. -/
theorem wrap_unobserved_iff_across :
    (∀ steps : List StreamStep,
        (∀ step ∈ steps, step.StartsWithin [65, 66]) →
        (∀ step ∈ steps, step.WrapsAlike 1000 (2 ^ 32 - 2) [65, 66]) →
        observations 1000 7 [65, 66] steps =
          observations (2 ^ 32 - 2) 7 [65, 66] steps) ∧
      ((∀ steps : List StreamStep,
          (∀ step ∈ steps, step.StartsWithin [65, 66]) →
          observations 1000 7 [65, 66] steps =
            observations (2 ^ 32 - 2) 7 [65, 66] steps) ↔
        ([65, 66] : Bytes) = [] ∨ ∀ position ≤ ([65, 66] : Bytes).length,
          (Wraps 1000 position ↔ Wraps (2 ^ 32 - 2) position)) :=
  wrap_unobserved_iff 1000 (2 ^ 32 - 2) (by decide) (by decide) 7 [65, 66]
    (by decide)

/-- One byte numbered 1 is delivered; numbered 0 after 2^32 - 1 it is
dropped. -/
theorem wrap_observed :
    ¬∀ (first second : Nat), first < 2 ^ 32 → second < 2 ^ 32 →
      ∀ (ack : Nat) (stream : Bytes), stream.length < 2 ^ 31 →
        ∀ steps : List StreamStep,
          (∀ step ∈ steps, step.StartsWithin stream) →
          observations first ack stream steps =
            observations second ack stream steps := by
  intro claimed
  have same := claimed 0 (2 ^ 32 - 1) (by decide) (by decide) 0 [65] (by decide)
    [.segment 0 1 0 thAck rfl, .pull] (by simp [StreamStep.StartsWithin])
  revert same
  decide

end DpktNg.Stream
