/-
What the two loops of `DirectionBuffer.feed` do to the list of out-of-order
segments: the merge of a sorted list into separated segments, and the cascade
that moves the segments the contiguous data has reached.

Both are described by the relative sequence numbers that a list of segments
covers and by the stream whose slices the segments carry.
-/

import DpktNg.Stream.DirectionBuffer

namespace DpktNg.Stream

open Library

def Segment.Covers (seg : Segment) (seqNo : Int) : Prop :=
  seg.relSeq ≤ seqNo ∧ seqNo < seg.stop

def Covers (segments : List Segment) (seqNo : Int) : Prop :=
  ∃ seg ∈ segments, seg.Covers seqNo

/-- Sorted, with at least one missing byte between two segments. -/
def Separated (segments : List Segment) : Prop :=
  segments.Pairwise fun a b => a.stop < b.relSeq

/-- The segment carries bytes of `stream`, whose first byte has the relative
sequence number 1. -/
def Segment.AgreesWith (stream : Bytes) (seg : Segment) : Prop :=
  1 ≤ seg.relSeq ∧ seg.data <+: stream.drop (seg.relSeq - 1).toNat

@[simp] theorem covers_nil (seqNo : Int) : ¬Covers [] seqNo := by
  rintro ⟨seg, member, _⟩
  cases member

@[simp] theorem covers_cons (seg : Segment) (rest : List Segment)
    (seqNo : Int) :
    Covers (seg :: rest) seqNo ↔ seg.Covers seqNo ∨ Covers rest seqNo := by
  simp only [Covers, List.mem_cons, exists_eq_or_imp]

theorem Covers.of_perm {first second : List Segment}
    (perm : first.Perm second) (seqNo : Int) :
    Covers first seqNo ↔ Covers second seqNo := by
  unfold Covers
  constructor
  · rintro ⟨seg, member, covers⟩
    exact ⟨seg, perm.mem_iff.mp member, covers⟩
  · rintro ⟨seg, member, covers⟩
    exact ⟨seg, perm.mem_iff.mpr member, covers⟩

theorem Segment.length_pos {seg : Segment} (nonempty : seg.data ≠ []) :
    0 < seg.data.length :=
  List.length_pos_iff.mpr nonempty

theorem Segment.AgreesWith.stop_le {stream : Bytes} {seg : Segment}
    (agrees : seg.AgreesWith stream) (nonempty : seg.data ≠ []) :
    seg.stop ≤ stream.length + 1 := by
  have bound := agrees.2.length_le
  have positive := Segment.length_pos nonempty
  have first := agrees.1
  rw [List.length_drop] at bound
  unfold Segment.stop
  omega

theorem Segment.mergedData_eq_splice {prev seg : Segment}
    (touches : seg.relSeq ≤ prev.stop) :
    prev.mergedData seg =
      splice prev.data (seg.relSeq - prev.relSeq).toNat seg.data := by
  unfold Segment.stop at touches
  simp only [Segment.mergedData]
  generalize offset : (seg.relSeq - prev.relSeq).toNat = overlapOff
  have inside : overlapOff ≤ prev.data.length := by omega
  by_cases overlaps : overlapOff < prev.data.length
  · rw [if_pos overlaps]
    -- the zero bytes of `bytearray(new_len)` are all overwritten
    have filled : ∀ pad, splice (zeros (prev.data.length + pad)) 0 prev.data =
        prev.data ++ zeros pad := by
      intro pad
      simp [splice, zeros]
    obtain ⟨pad, hPad⟩ : ∃ pad, max prev.data.length
        (overlapOff + seg.data.length) = prev.data.length + pad :=
      ⟨_, (Nat.add_sub_of_le (Nat.le_max_left _ _)).symm⟩
    rw [hPad, filled]
    have tail : (prev.data ++ zeros pad).drop
        (overlapOff + seg.data.length) =
          prev.data.drop (overlapOff + seg.data.length) := by
      by_cases beyond : prev.data.length ≤ overlapOff + seg.data.length
      · rw [List.drop_eq_nil_of_le beyond, List.drop_eq_nil_of_le]
        rw [List.length_append, zeros_length]
        omega
      · have noPad : pad = 0 := by omega
        rw [noPad, zeros_zero, List.append_nil]
    unfold splice
    rw [tail, List.take_append_of_le_length inside]
  · rw [if_neg overlaps]
    have atEnd : overlapOff = prev.data.length := by omega
    simp [splice, atEnd]

section Touching

variable {prev seg : Segment} (after : prev.relSeq ≤ seg.relSeq)
  (touches : seg.relSeq ≤ prev.stop)

include after touches

theorem Segment.merge_stop :
    (prev.merge seg).stop = max prev.stop seg.stop := by
  have length := splice_length prev.data seg.data
    (seg.relSeq - prev.relSeq).toNat (by unfold Segment.stop at touches; omega)
  simp only [Segment.stop, Segment.merge,
    Segment.mergedData_eq_splice touches, length]
  omega

theorem Segment.merge_covers (seqNo : Int) :
    (prev.merge seg).Covers seqNo ↔ prev.Covers seqNo ∨ seg.Covers seqNo := by
  have stop := Segment.merge_stop after touches
  unfold Segment.Covers
  rw [stop]
  simp only [Segment.merge]
  omega

theorem Segment.merge_nonempty (nonempty : prev.data ≠ []) :
    (prev.merge seg).data ≠ [] := by
  have stop := Segment.merge_stop after touches
  have positive := Segment.length_pos nonempty
  intro empty
  simp only [Segment.stop, Segment.merge] at stop empty
  rw [empty] at stop
  simp only [List.length_nil] at stop
  omega

theorem Segment.merge_agrees {stream : Bytes}
    (prevAgrees : prev.AgreesWith stream) (segAgrees : seg.AgreesWith stream) :
    (prev.merge seg).AgreesWith stream := by
  refine ⟨prevAgrees.1, ?_⟩
  change prev.mergedData seg <+: stream.drop (prev.relSeq - 1).toNat
  rw [Segment.mergedData_eq_splice touches]
  apply splice_isPrefix prevAgrees.2
  · rw [List.drop_drop]
    have position : (prev.relSeq - 1).toNat +
        (seg.relSeq - prev.relSeq).toNat = (seg.relSeq - 1).toNat := by
      have := prevAgrees.1
      omega
    rw [position]
    exact segAgrees.2
  · unfold Segment.stop at touches
    omega

end Touching

/-- The loop from the point where `merged` ends with `prev`. -/
def mergeFrom (prev : Segment) : List Segment → List Segment
  | [] => [prev]
  | seg :: rest =>
      if prev.stop ≥ seg.relSeq then mergeFrom (prev.merge seg) rest
      else prev :: mergeFrom seg rest

theorem foldl_mergeStep (merged : List Segment) (prev : Segment)
    (rest : List Segment) :
    rest.foldl mergeStep (merged ++ [prev]) =
      merged ++ mergeFrom prev rest := by
  induction rest generalizing merged prev with
  | nil => rfl
  | cons seg rest ih =>
      simp only [List.foldl_cons, mergeStep, List.getLast?_concat,
        List.dropLast_concat, mergeFrom]
      by_cases touches : prev.stop ≥ seg.relSeq
      · rw [if_pos touches, if_pos touches]
        exact ih merged (prev.merge seg)
      · rw [if_neg touches, if_neg touches, ih, List.append_assoc,
          List.singleton_append]

theorem mergeSegments_cons (first : Segment) (rest : List Segment) :
    mergeSegments (first :: rest) = mergeFrom first rest :=
  foldl_mergeStep [] first rest

def SortedByStart (segments : List Segment) : Prop :=
  segments.Pairwise fun a b => a.relSeq ≤ b.relSeq

theorem SortedByStart.merge {prev seg : Segment} {rest : List Segment}
    (sorted : SortedByStart (prev :: seg :: rest)) :
    SortedByStart (prev.merge seg :: rest) := by
  have parts := List.pairwise_cons.mp sorted
  have tail := List.pairwise_cons.mp parts.2
  exact List.pairwise_cons.mpr
    ⟨fun other member => parts.1 other (List.mem_cons_of_mem seg member),
      tail.2⟩

/-- A property of segments that merging two touching ones keeps is a property
of every segment of the merged list. -/
theorem mergeFrom_all (Good : Segment → Prop)
    (closed : ∀ prev seg, prev.relSeq ≤ seg.relSeq → seg.relSeq ≤ prev.stop →
      Good prev → Good seg → Good (prev.merge seg))
    (prev : Segment) (rest : List Segment)
    (sorted : SortedByStart (prev :: rest))
    (good : ∀ seg ∈ prev :: rest, Good seg) :
    ∀ seg ∈ mergeFrom prev rest, Good seg := by
  induction rest generalizing prev with
  | nil => exact good
  | cons seg rest ih =>
      have after := (List.pairwise_cons.mp sorted).1 seg List.mem_cons_self
      have prevGood := good prev List.mem_cons_self
      have restGood : ∀ other ∈ seg :: rest, Good other :=
        fun other member => good other (List.mem_cons_of_mem prev member)
      unfold mergeFrom
      by_cases touches : prev.stop ≥ seg.relSeq
      · rw [if_pos touches]
        apply ih _ sorted.merge
        intro other member
        rcases List.mem_cons.mp member with rfl | member
        · exact closed prev seg after touches prevGood
            (restGood seg List.mem_cons_self)
        · exact restGood other (List.mem_cons_of_mem seg member)
      · rw [if_neg touches]
        intro other member
        rcases List.mem_cons.mp member with rfl | member
        · exact prevGood
        · exact ih seg (List.pairwise_cons.mp sorted).2 restGood other member

theorem mergeFrom_covers (prev : Segment) (rest : List Segment)
    (sorted : SortedByStart (prev :: rest)) (seqNo : Int) :
    Covers (mergeFrom prev rest) seqNo ↔ Covers (prev :: rest) seqNo := by
  induction rest generalizing prev with
  | nil => rfl
  | cons seg rest ih =>
      have after := (List.pairwise_cons.mp sorted).1 seg List.mem_cons_self
      unfold mergeFrom
      by_cases touches : prev.stop ≥ seg.relSeq
      · rw [if_pos touches, ih _ sorted.merge, covers_cons, covers_cons,
          covers_cons, Segment.merge_covers after touches, or_assoc]
      · rw [if_neg touches, covers_cons,
          ih seg (List.pairwise_cons.mp sorted).2, covers_cons prev]

theorem mergeFrom_separated (prev : Segment) (rest : List Segment)
    (sorted : SortedByStart (prev :: rest)) :
    Separated (mergeFrom prev rest) := by
  induction rest generalizing prev with
  | nil => exact List.pairwise_singleton _ _
  | cons seg rest ih =>
      unfold mergeFrom
      by_cases touches : prev.stop ≥ seg.relSeq
      · rw [if_pos touches]
        exact ih _ sorted.merge
      · rw [if_neg touches]
        have tail := (List.pairwise_cons.mp sorted).2
        refine List.pairwise_cons.mpr ⟨?_, ih seg tail⟩
        -- every segment of the rest starts at `seg` or later
        apply mergeFrom_all (fun other => prev.stop < other.relSeq)
          (fun _ _ _ _ prevLater _ => prevLater) seg rest tail
        intro other member
        rcases List.mem_cons.mp member with rfl | member
        · omega
        · have later := (List.pairwise_cons.mp tail).1 other member
          omega

theorem sortedInsert_perm (segments : List Segment) (seg : Segment) :
    (sortedInsert segments seg).Perm (seg :: segments) :=
  (List.perm_insertionSort _ _).trans (List.perm_append_singleton seg segments)

theorem sortedInsert_sorted (segments : List Segment) (seg : Segment) :
    SortedByStart (sortedInsert segments seg) := by
  have total : Std.Total fun a b : Segment => a.relSeq ≤ b.relSeq :=
    ⟨fun a b => Int.le_total a.relSeq b.relSeq⟩
  have transitive : IsTrans Segment fun a b => a.relSeq ≤ b.relSeq :=
    ⟨fun _ _ _ first second => Int.le_trans first second⟩
  exact List.pairwise_insertionSort _ _

theorem insertMerge_eq_mergeFrom (segments : List Segment) (seg : Segment) :
    ∃ first rest, sortedInsert segments seg = first :: rest ∧
      insertMerge segments seg = mergeFrom first rest := by
  unfold insertMerge
  cases sortedAt : sortedInsert segments seg with
  | nil =>
      have length := (sortedInsert_perm segments seg).length_eq
      rw [sortedAt] at length
      simp at length
  | cons first rest => exact ⟨first, rest, rfl, mergeSegments_cons first rest⟩

theorem insertMerge_covers (segments : List Segment) (seg : Segment)
    (seqNo : Int) :
    Covers (insertMerge segments seg) seqNo ↔
      seg.Covers seqNo ∨ Covers segments seqNo := by
  obtain ⟨first, rest, sortedAt, merged⟩ := insertMerge_eq_mergeFrom segments seg
  have sorted := sortedInsert_sorted segments seg
  have perm := sortedInsert_perm segments seg
  rw [sortedAt] at sorted perm
  rw [merged, mergeFrom_covers first rest sorted, Covers.of_perm perm,
    covers_cons]

theorem insertMerge_separated (segments : List Segment) (seg : Segment) :
    Separated (insertMerge segments seg) := by
  obtain ⟨first, rest, sortedAt, merged⟩ := insertMerge_eq_mergeFrom segments seg
  have sorted := sortedInsert_sorted segments seg
  rw [sortedAt] at sorted
  rw [merged]
  exact mergeFrom_separated first rest sorted

theorem insertMerge_all (Good : Segment → Prop)
    (closed : ∀ prev seg, prev.relSeq ≤ seg.relSeq → seg.relSeq ≤ prev.stop →
      Good prev → Good seg → Good (prev.merge seg))
    (segments : List Segment) (seg : Segment) (segGood : Good seg)
    (good : ∀ other ∈ segments, Good other) :
    ∀ other ∈ insertMerge segments seg, Good other := by
  obtain ⟨first, rest, sortedAt, merged⟩ := insertMerge_eq_mergeFrom segments seg
  have sorted := sortedInsert_sorted segments seg
  have perm := sortedInsert_perm segments seg
  rw [sortedAt] at sorted perm
  rw [merged]
  apply mergeFrom_all Good closed first rest sorted
  intro other member
  rcases List.mem_cons.mp (perm.mem_iff.mp member) with rfl | member
  · exact segGood
  · exact good other member

section Cascade

open DirectionBuffer

/-- What `cascade` returns: later data appended, a suffix of the segments
left, and every segment left out of reach. -/
structure CascadeResult (nextSeq : Int) (contiguous : Bytes)
    (segments : List Segment) (result : Int × Bytes × List Segment) :
    Prop where
  suffix : result.2.2 <:+ segments
  forward : nextSeq ≤ result.1
  ahead : ∀ seg ∈ result.2.2, result.1 < seg.relSeq
  covers : ∀ seqNo, seqNo < result.1 ∨ Covers result.2.2 seqNo ↔
    seqNo < nextSeq ∨ Covers segments seqNo
  appended : ∃ moved, result.2.1 = contiguous ++ moved ∧
    result.1 = nextSeq + moved.length ∧
    ∀ stream : Bytes, 1 ≤ nextSeq →
      (∀ seg ∈ segments, seg.AgreesWith stream) →
      moved <+: stream.drop (nextSeq - 1).toNat

namespace CascadeResult

variable {nextSeq : Int} {contiguous : Bytes} {seg : Segment}
  {rest : List Segment} {result : Int × Bytes × List Segment}

theorem stop (separated : Separated (seg :: rest)) (present : seg.data ≠ [])
    (gap : nextSeq < seg.relSeq) :
    CascadeResult nextSeq contiguous (seg :: rest)
      (nextSeq, contiguous, seg :: rest) where
  suffix := List.suffix_rfl
  forward := Int.le_refl _
  ahead := by
    intro other member
    have headBelow := Segment.length_pos present
    rcases List.mem_cons.mp member with rfl | member
    · exact gap
    · have behind := (List.pairwise_cons.mp separated).1 other member
      unfold Segment.stop at behind
      change nextSeq < other.relSeq
      omega
  covers := fun seqNo => Iff.rfl
  appended := ⟨[], by simp, by simp, fun _ _ _ => List.nil_prefix⟩

/-- A segment that lies behind `next_seq` is dropped. -/
theorem skip (step : CascadeResult nextSeq contiguous rest result)
    (short : ¬seg.relSeq + seg.data.length > nextSeq) :
    CascadeResult nextSeq contiguous (seg :: rest) result := by
  obtain ⟨moved, hContiguous, hNext, hAgrees⟩ := step.appended
  refine
    { suffix := step.suffix.trans (List.suffix_cons seg rest)
      forward := step.forward
      ahead := step.ahead
      covers := ?_
      appended := ⟨moved, hContiguous, hNext,
        fun stream started agrees => hAgrees stream started
          fun other member =>
            agrees other (List.mem_cons_of_mem seg member)⟩ }
  intro seqNo
  rw [step.covers seqNo, covers_cons]
  unfold Segment.Covers Segment.stop
  constructor
  · rintro (old | later)
    · exact Or.inl old
    · exact Or.inr (Or.inr later)
  · rintro (old | inside | later)
    · exact Or.inl old
    · exact Or.inl (by omega)
    · exact Or.inr later

/-- What a segment has behind `next_seq` is appended. -/
theorem take
    (step : CascadeResult
      (nextSeq + (seg.data.length - (nextSeq - seg.relSeq)))
      (contiguous ++ seg.data.drop (nextSeq - seg.relSeq).toNat) rest result)
    (reached : seg.relSeq ≤ nextSeq)
    (longer : seg.relSeq + seg.data.length > nextSeq) :
    CascadeResult nextSeq contiguous (seg :: rest) result := by
  obtain ⟨moved, hContiguous, hNext, hAgrees⟩ := step.appended
  refine
    { suffix := step.suffix.trans (List.suffix_cons seg rest)
      forward := ?_
      ahead := step.ahead
      covers := ?_
      appended := ?_ }
  · have := step.forward
    omega
  · intro seqNo
    rw [step.covers seqNo, covers_cons]
    unfold Segment.Covers Segment.stop
    constructor
    · rintro (early | later)
      · by_cases old : seqNo < nextSeq
        · exact Or.inl old
        · exact Or.inr (Or.inl (by omega))
      · exact Or.inr (Or.inr later)
    · rintro (old | inside | later)
      · exact Or.inl (by omega)
      · exact Or.inl (by omega)
      · exact Or.inr later
  · refine ⟨seg.data.drop (nextSeq - seg.relSeq).toNat ++ moved, ?_, ?_, ?_⟩
    · rw [hContiguous, List.append_assoc]
    · rw [hNext, List.length_append, List.length_drop]
      omega
    · intro stream started agrees
      have first := agrees seg List.mem_cons_self
      have rest := hAgrees stream (by omega)
        (fun other member => agrees other (List.mem_cons_of_mem seg member))
      have start := first.1
      apply append_isPrefix
      · have dropped := first.2.drop (nextSeq - seg.relSeq).toNat
        rw [List.drop_drop] at dropped
        have position : (seg.relSeq - 1).toNat +
            (nextSeq - seg.relSeq).toNat = (nextSeq - 1).toNat := by
          omega
        rw [position] at dropped
        exact dropped
      · rw [List.drop_drop, List.length_drop]
        have position : (nextSeq - 1).toNat + (seg.data.length -
            (nextSeq - seg.relSeq).toNat) =
            (nextSeq + (seg.data.length - (nextSeq - seg.relSeq)) -
              1).toNat := by
          omega
        rw [position]
        exact rest

end CascadeResult

theorem cascade_result (nextSeq : Int) (contiguous : Bytes)
    (segments : List Segment) (separated : Separated segments)
    (nonempty : ∀ seg ∈ segments, seg.data ≠ []) :
    CascadeResult nextSeq contiguous segments
      (cascade nextSeq contiguous segments) := by
  induction segments generalizing nextSeq contiguous with
  | nil =>
      exact
        { suffix := List.suffix_rfl
          forward := Int.le_refl _
          ahead := fun seg member => by cases member
          covers := fun seqNo => Iff.rfl
          appended := ⟨[], by simp [cascade], by simp [cascade],
            fun _ _ _ => List.nil_prefix⟩ }
  | cons seg rest ih =>
      have restSeparated := (List.pairwise_cons.mp separated).2
      have restNonempty : ∀ other ∈ rest, other.data ≠ [] :=
        fun other member => nonempty other (List.mem_cons_of_mem seg member)
      unfold cascade
      by_cases reached : seg.relSeq ≤ nextSeq
      · rw [if_pos reached]
        by_cases longer : seg.relSeq + seg.data.length > nextSeq
        · rw [if_pos longer]
          exact (ih _ _ restSeparated restNonempty).take reached longer
        · rw [if_neg longer]
          exact (ih _ _ restSeparated restNonempty).skip longer
      · rw [if_neg reached]
        exact CascadeResult.stop separated
          (nonempty seg List.mem_cons_self) (by omega)

end Cascade

end DpktNg.Stream
