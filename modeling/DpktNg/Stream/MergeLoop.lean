/-
One merge of a connection: the loop of `merged_data` over the sorted items.

Without filling gaps it delivers the contiguous bytes of both directions and
skips every out-of-order segment that comes behind contiguous bytes of its own
direction.
-/

import DpktNg.Library.Demultiplexing
import DpktNg.Stream.Reassembler
import DpktNg.Stream.Reassembly

namespace DpktNg.Stream

open Library DirectionBuffer

/-! ### The loop of `merged_data` -/

def Item.InOrder (next : Direction → Int) (item : Item) : Prop :=
  item.stop = next item.direction

def Item.Late (next : Direction → Int) (item : Item) : Prop :=
  next item.direction < item.relSeq

instance (next : Direction → Int) : DecidablePred (Item.InOrder next) :=
  fun item => inferInstanceAs (Decidable (item.stop = next item.direction))

/-- Items of one direction follow each other without overlap. -/
def Apart (a b : Item) : Prop :=
  a.direction = b.direction → a.stop ≤ b.relSeq

/-- With `next` as the end of the contiguous bytes in each direction, every
item is contiguous or late, and every late item of a direction is preceded by
its contiguous item, either among these items or before them. -/
structure Anchored (next : Direction → Int)
    (positions : Direction → Option Int) (items : List Item) : Prop where
  nonempty : ∀ item ∈ items, item.data ≠ []
  apart : items.Pairwise Apart
  kinds : ∀ item ∈ items, item.InOrder next ∨ item.Late next
  fresh : ∀ item ∈ items, item.InOrder next →
    positions item.direction = none
  anchored : ∀ item ∈ items, item.Late next →
    positions item.direction = some (next item.direction) ∨
      ∃ anchor ∈ items, anchor.direction = item.direction ∧
        anchor.InOrder next

theorem Item.relSeq_lt_stop {item : Item} (nonempty : item.data ≠ []) :
    item.relSeq < item.stop := by
  have positive := List.length_pos_iff.mpr nonempty
  unfold Item.stop
  omega

section Loop

variable {next : Direction → Int} {positions : Direction → Option Int}
  {item : Item} {rest : List Item}

/-- After the contiguous item of a direction only late items of it follow, and
they find its end recorded. -/
theorem Anchored.after_inOrder
    (holds : Anchored next positions (item :: rest))
    (inOrder : item.InOrder next) :
    Anchored next
      (Function.update positions item.direction
        (some (next item.direction))) rest := by
  have itemBound := Item.relSeq_lt_stop
    (holds.nonempty item List.mem_cons_self)
  have parts := List.pairwise_cons.mp holds.apart
  refine
    { nonempty := fun other member =>
        holds.nonempty other (List.mem_cons_of_mem item member)
      apart := parts.2
      kinds := fun other member =>
        holds.kinds other (List.mem_cons_of_mem item member)
      fresh := ?_
      anchored := ?_ }
  · intro other member otherInOrder
    have otherBound := Item.relSeq_lt_stop
      (holds.nonempty other (List.mem_cons_of_mem item member))
    have different : other.direction ≠ item.direction := by
      intro same
      have gap := parts.1 other member same.symm
      unfold Item.InOrder at inOrder otherInOrder
      rw [same] at otherInOrder
      omega
    rw [Function.update_of_ne different]
    exact holds.fresh other (List.mem_cons_of_mem item member) otherInOrder
  · intro other member late
    by_cases same : other.direction = item.direction
    · rw [same, Function.update_self]
      exact Or.inl rfl
    · rw [Function.update_of_ne same]
      rcases holds.anchored other (List.mem_cons_of_mem item member) late with
        recorded | anchor
      · exact Or.inl recorded
      · obtain ⟨anchor, anchorMember, sameDirection, anchorInOrder⟩ := anchor
        cases anchorMember with
        | head => exact absurd sameDirection.symm same
        | tail _ inRest =>
            exact Or.inr ⟨anchor, inRest, sameDirection, anchorInOrder⟩

/-- A late item comes behind its contiguous item, so the end is recorded. -/
theorem Anchored.late_recorded
    (holds : Anchored next positions (item :: rest))
    (late : item.Late next) :
    positions item.direction = some (next item.direction) := by
  rcases holds.anchored item List.mem_cons_self late with recorded | anchor
  · exact recorded
  · obtain ⟨anchor, member, sameDirection, inOrder⟩ := anchor
    have anchorBound := Item.relSeq_lt_stop (holds.nonempty anchor member)
    have itemBound := Item.relSeq_lt_stop
      (holds.nonempty item List.mem_cons_self)
    unfold Item.InOrder at inOrder
    unfold Item.Late at late
    rw [sameDirection] at inOrder
    cases member with
    | head => omega
    | tail _ inRest =>
        have gap := (List.pairwise_cons.mp holds.apart).1 anchor inRest
          sameDirection.symm
        omega

theorem Anchored.after_late (holds : Anchored next positions (item :: rest))
    (late : item.Late next) : Anchored next positions rest where
  nonempty := fun other member =>
    holds.nonempty other (List.mem_cons_of_mem item member)
  apart := (List.pairwise_cons.mp holds.apart).2
  kinds := fun other member =>
    holds.kinds other (List.mem_cons_of_mem item member)
  fresh := fun other member =>
    holds.fresh other (List.mem_cons_of_mem item member)
  anchored := by
    intro other member otherLate
    rcases holds.anchored other (List.mem_cons_of_mem item member) otherLate
      with recorded | anchor
    · exact Or.inl recorded
    · obtain ⟨anchor, anchorMember, sameDirection, inOrder⟩ := anchor
      cases anchorMember with
      | head =>
          rw [← sameDirection]
          exact Or.inl (holds.late_recorded late)
      | tail _ inRest => exact Or.inr ⟨anchor, inRest, sameDirection, inOrder⟩

end Loop

/-- Without filling gaps the loop outputs the contiguous items and skips the
late ones. -/
theorem foldl_mergeItem (next : Direction → Int)
    (positive : ∀ direction, 0 ≤ next direction) (items : List Item)
    (positions : Direction → Option Int) (result : Bytes)
    (holds : Anchored next positions items) :
    (items.foldl (mergeItem false) (positions, result)).2 =
      result ++
        (items.filter fun item => item.InOrder next).flatMap Item.data := by
  induction items generalizing positions result with
  | nil => simp
  | cons item rest ih =>
      rw [List.foldl_cons]
      rcases holds.kinds item List.mem_cons_self with inOrder | late
      · have unset := holds.fresh item List.mem_cons_self inOrder
        have reached : max (0 : Int) (item.relSeq + item.data.length) =
            next item.direction := by
          have same : item.relSeq + item.data.length =
              next item.direction := inOrder
          have := positive item.direction
          omega
        have stepped : mergeItem false (positions, result) item =
            (Function.update positions item.direction
              (some (next item.direction)), result ++ item.data) := by
          simp [mergeItem, unset, Item.output, reached]
        rw [stepped, ih _ _ (holds.after_inOrder inOrder),
          List.filter_cons_of_pos (by simpa using inOrder),
          List.flatMap_cons, List.append_assoc]
      · have recorded := holds.late_recorded late
        have beyond : item.relSeq > next item.direction := late
        have stepped : mergeItem false (positions, result) item =
            (positions, result) := by
          simp [mergeItem, recorded, Item.output, beyond]
        have itemBound := Item.relSeq_lt_stop
          (holds.nonempty item List.mem_cons_self)
        have notInOrder : ¬item.InOrder next := by
          unfold Item.InOrder
          omega
        rw [stepped, ih _ _ (holds.after_late late),
          List.filter_cons_of_neg (by simpa using notInOrder)]

/-! ### The items of the two buffers -/

theorem contiguousItems_data (direction : Direction) (buf : DirectionBuffer) :
    (contiguousItems direction buf).flatMap Item.data = buf.contiguous := by
  unfold contiguousItems
  split
  · rename_i empty
    rw [empty]
    rfl
  · simp

theorem mem_contiguousItems {direction : Direction} {buf : DirectionBuffer}
    {item : Item} (member : item ∈ contiguousItems direction buf) :
    item.direction = direction ∧ item.stop = buf.nextSeq ∧
      item.data ≠ [] := by
  unfold contiguousItems at member
  split at member
  · cases member
  · rename_i nonempty
    rw [List.mem_singleton] at member
    subst member
    refine ⟨rfl, ?_, nonempty⟩
    unfold Item.stop
    dsimp only
    omega

theorem mem_segmentItems {direction : Direction} {buf : DirectionBuffer}
    {item : Item} (wellFormed : WellFormed buf)
    (member : item ∈ segmentItems direction buf) :
    item.direction = direction ∧ buf.nextSeq < item.relSeq ∧
      item.data ≠ [] := by
  unfold segmentItems at member
  rw [List.mem_map] at member
  obtain ⟨seg, segMember, same⟩ := member
  subst same
  exact ⟨rfl, wellFormed.ahead seg segMember,
    wellFormed.nonempty seg segMember⟩

theorem directionItems_apart (direction : Direction) {buf : DirectionBuffer}
    (wellFormed : WellFormed buf) :
    (directionItems direction buf).Pairwise Apart := by
  unfold directionItems
  rw [List.pairwise_append]
  refine ⟨?_, ?_, ?_⟩
  · unfold contiguousItems
    split
    · exact List.Pairwise.nil
    · exact List.pairwise_singleton _ _
  · unfold segmentItems
    rw [List.pairwise_map]
    apply wellFormed.separated.imp
    intro a b gap _same
    unfold Segment.stop at gap
    unfold Item.stop
    dsimp only
    omega
  · intro a aMember b bMember _same
    have aStop := (mem_contiguousItems aMember).2.1
    have bStart := (mem_segmentItems wellFormed bMember).2.1
    omega

theorem directionItems_direction {direction : Direction}
    {buf : DirectionBuffer} {item : Item}
    (member : item ∈ directionItems direction buf) :
    item.direction = direction := by
  unfold directionItems segmentItems at member
  rw [List.mem_append, List.mem_map] at member
  rcases member with contiguous | late
  · exact (mem_contiguousItems contiguous).1
  · obtain ⟨_seg, _member, same⟩ := late
    rw [← same]

instance : Std.Total Item.keyLe where
  total a b := by
    unfold Item.keyLe
    omega

instance : IsTrans Item Item.keyLe where
  trans a b c first second := by
    unfold Item.keyLe at first second ⊢
    omega

theorem cleared_of_empty {buf : DirectionBuffer} (wellFormed : WellFormed buf)
    (noContiguous : buf.contiguous = []) (noSegments : buf.segments = []) :
    buf.cleared = buf := by
  have accounted := wellFormed.accounted
  rw [noContiguous, noSegments] at accounted
  cases buf
  simp only [DirectionBuffer.cleared] at noContiguous noSegments accounted ⊢
  rw [noContiguous, noSegments, accounted]
  rfl

/-- A merge can deliver the direction in order: no out-of-order segment lies
behind a gap that starts the direction's output. -/
def Mergeable (buf : DirectionBuffer) : Prop :=
  buf.segments = [] ∨ buf.contiguous ≠ []

namespace Connection

def nextSeqs (conn : Connection) (direction : Direction) : Int :=
  (conn.buffer direction).nextSeq

theorem mem_items (conn : Connection) (item : Item) :
    item ∈ conn.items ↔
      item ∈ directionItems item.direction (conn.buffer item.direction) := by
  unfold items
  rw [List.mem_append]
  constructor
  · intro present
    rcases present with member | member
    · rw [directionItems_direction member]
      exact member
    · rw [directionItems_direction member]
      exact member
  · intro member
    cases direction : item.direction with
    | c2s =>
        rw [direction] at member
        exact Or.inl member
    | s2c =>
        rw [direction] at member
        exact Or.inr member

theorem buffers_of_items_nil {conn : Connection} (nothing : conn.items = [])
    (direction : Direction) :
    (conn.buffer direction).contiguous = [] ∧
      (conn.buffer direction).segments = [] := by
  have empty : directionItems direction (conn.buffer direction) = [] := by
    unfold items at nothing
    rw [List.append_eq_nil_iff] at nothing
    cases direction with
    | c2s => exact nothing.1
    | s2c => exact nothing.2
  unfold directionItems segmentItems at empty
  rw [List.append_eq_nil_iff, List.map_eq_nil_iff] at empty
  refine ⟨?_, empty.2⟩
  rw [← contiguousItems_data direction, empty.1]
  rfl

section Merge

variable {conn : Connection}
  (wellFormed : ∀ direction, WellFormed (conn.buffer direction))

include wellFormed

theorem items_kinds {item : Item} (member : item ∈ conn.items) :
    item.data ≠ [] ∧
      (item ∈ contiguousItems item.direction (conn.buffer item.direction) ∧
          item.InOrder conn.nextSeqs ∨
        item ∈ segmentItems item.direction (conn.buffer item.direction) ∧
          item.Late conn.nextSeqs) := by
  rw [mem_items] at member
  unfold directionItems at member
  rcases List.mem_append.mp member with contiguous | late
  · have facts := mem_contiguousItems contiguous
    exact ⟨facts.2.2, Or.inl ⟨contiguous, facts.2.1⟩⟩
  · have facts := mem_segmentItems (wellFormed item.direction) late
    exact ⟨facts.2.2, Or.inr ⟨late, facts.2.1⟩⟩

/-- After sorting, the items of one direction are still apart: sorting by start
cannot put one before an earlier one. -/
theorem sorted_apart :
    (conn.items.insertionSort Item.keyLe).Pairwise Apart := by
  have perm := List.perm_insertionSort Item.keyLe conn.items
  have either : conn.items.Pairwise fun a b =>
      a.direction = b.direction → a.stop ≤ b.relSeq ∨ b.stop ≤ a.relSeq := by
    unfold items
    rw [List.pairwise_append]
    refine ⟨(directionItems_apart .c2s (wellFormed .c2s)).imp ?_,
      (directionItems_apart .s2c (wellFormed .s2c)).imp ?_, ?_⟩
    · intro a b apart same
      exact Or.inl (apart same)
    · intro a b apart same
      exact Or.inl (apart same)
    · intro a aMember b bMember same
      rw [directionItems_direction aMember,
        directionItems_direction bMember] at same
      cases same
  have eitherSorted := (perm.pairwise_iff (fun {a b} apart same =>
    (apart same.symm).symm)).mpr either
  have sorted := List.pairwise_insertionSort Item.keyLe conn.items
  apply (eitherSorted.and sorted).imp_of_mem
  intro a b aMember bMember holds same
  have bNonempty := (items_kinds wellFormed (perm.subset bMember)).1
  have bBound := Item.relSeq_lt_stop bNonempty
  have key := holds.2
  unfold Item.keyLe at key
  rcases holds.1 same with apart | inverted
  · exact apart
  · omega

theorem filter_directionItems (direction : Direction) :
    (directionItems direction (conn.buffer direction)).filter
        (fun item => item.InOrder conn.nextSeqs) =
      contiguousItems direction (conn.buffer direction) := by
  unfold directionItems
  rw [List.filter_append, List.filter_eq_self.mpr, List.filter_eq_nil_iff.mpr,
    List.append_nil]
  · intro item member
    have facts := mem_segmentItems (wellFormed direction) member
    have bound := Item.relSeq_lt_stop facts.2.2
    have later := facts.2.1
    rw [decide_eq_true_eq]
    unfold Item.InOrder nextSeqs
    rw [facts.1]
    omega
  · intro item member
    have facts := mem_contiguousItems member
    rw [decide_eq_true_eq]
    unfold Item.InOrder nextSeqs
    rw [facts.1]
    exact facts.2.1

/-- The contiguous items of one direction among the sorted ones carry exactly
its contiguous bytes: there is at most one of them. -/
theorem sorted_contiguous (direction : Direction) :
    (((conn.items.insertionSort Item.keyLe).filter
        fun item => item.InOrder conn.nextSeqs).filter
      fun item => item.direction = direction).flatMap Item.data =
      (conn.buffer direction).contiguous := by
  have perm := ((List.perm_insertionSort Item.keyLe conn.items).filter
    (fun item => decide (item.InOrder conn.nextSeqs))).filter
      (fun item => decide (item.direction = direction))
  have split : (conn.items.filter
      fun item => item.InOrder conn.nextSeqs) =
      contiguousItems .c2s conn.c2s ++ contiguousItems .s2c conn.s2c := by
    unfold items
    rw [List.filter_append]
    exact congrArg₂ _ (filter_directionItems wellFormed .c2s)
      (filter_directionItems wellFormed .s2c)
  have own : ∀ buf, (contiguousItems direction buf).filter
      (fun item => item.direction = direction) =
      contiguousItems direction buf := by
    intro buf
    apply List.filter_eq_self.mpr
    intro item member
    simpa using (mem_contiguousItems member).1
  have foreign : ∀ other buf, other ≠ direction →
      (contiguousItems other buf).filter
        (fun item => item.direction = direction) = [] := by
    intro other buf different
    apply List.filter_eq_nil_iff.mpr
    intro item member
    rw [(mem_contiguousItems member).1]
    simpa using different
  have single : ((conn.items.filter
      fun item => item.InOrder conn.nextSeqs).filter
        fun item => item.direction = direction) =
      contiguousItems direction (conn.buffer direction) := by
    rw [split, List.filter_append]
    cases direction with
    | c2s =>
        rw [own, foreign .s2c _ (by decide), List.append_nil]
        rfl
    | s2c =>
        rw [own, foreign .c2s _ (by decide), List.nil_append]
        rfl
  rw [single] at perm
  rw [← contiguousItems_data direction (conn.buffer direction)]
  -- a permutation of at most one item is the same list
  unfold contiguousItems at perm ⊢
  split
  · rename_i empty
    rw [if_pos empty] at perm
    rw [perm.eq_nil]
  · rename_i nonempty
    rw [if_neg nonempty] at perm
    rw [List.perm_singleton.mp perm]

theorem sorted_anchored
    (mergeable : ∀ direction, Mergeable (conn.buffer direction)) :
    Anchored conn.nextSeqs (fun _direction => none)
      (conn.items.insertionSort Item.keyLe) := by
  have perm := List.perm_insertionSort Item.keyLe conn.items
  refine
    { nonempty := fun item member =>
        (items_kinds wellFormed (perm.subset member)).1
      apart := sorted_apart wellFormed
      kinds := ?_
      fresh := fun _item _member _inOrder => rfl
      anchored := ?_ }
  · intro item member
    rcases (items_kinds wellFormed (perm.subset member)).2 with
      contiguous | late
    · exact Or.inl contiguous.2
    · exact Or.inr late.2
  · intro item member late
    refine Or.inr ?_
    -- a late item comes from a segment, so its direction has contiguous bytes
    have found : item ∈ segmentItems item.direction
        (conn.buffer item.direction) := by
      rcases items_kinds wellFormed (perm.subset member) with
        ⟨nonempty, contiguous | fromSegment⟩
      · have bound := Item.relSeq_lt_stop nonempty
        have inOrder := contiguous.2
        unfold Item.InOrder at inOrder
        unfold Item.Late at late
        omega
      · exact fromSegment.1
    have hasSegments : (conn.buffer item.direction).segments ≠ [] := by
      intro empty
      unfold segmentItems at found
      rw [empty] at found
      cases found
    have hasContiguous :=
      (mergeable item.direction).resolve_left hasSegments
    obtain ⟨anchor, anchorMember⟩ : ∃ anchor,
        anchor ∈ contiguousItems item.direction
          (conn.buffer item.direction) := by
      unfold contiguousItems
      rw [if_neg hasContiguous]
      exact ⟨_, List.mem_singleton_self _⟩
    have facts := mem_contiguousItems anchorMember
    refine ⟨anchor, perm.symm.subset ?_, facts.1, ?_⟩
    · rw [mem_items, facts.1]
      exact List.mem_append_left _ anchorMember
    · unfold Item.InOrder nextSeqs
      rw [facts.1]
      exact facts.2.1

/-- A merge of mergeable buffers outputs an interleaving of their contiguous
bytes. -/
theorem mergedData_interleaves
    (mergeable : ∀ direction, Mergeable (conn.buffer direction))
    (started : ∀ direction, 1 ≤ (conn.buffer direction).nextSeq) :
    Interleaving conn.c2s.contiguous conn.s2c.contiguous
      (conn.mergedData false).2 := by
  have tagged := Interleaving.of_tagged
    (fun item : Item => decide (item.direction = .c2s)) Item.data
    ((conn.items.insertionSort Item.keyLe).filter
      fun item => item.InOrder conn.nextSeqs)
  have second : (fun item : Item => !decide (item.direction = .c2s)) =
      fun item => decide (item.direction = .s2c) := by
    funext item
    cases item.direction <;> rfl
  rw [second, sorted_contiguous wellFormed .c2s,
    sorted_contiguous wellFormed .s2c] at tagged
  have loop := foldl_mergeItem conn.nextSeqs
    (fun direction => by
      have := started direction
      unfold nextSeqs
      omega)
    _ _ [] (sorted_anchored wellFormed mergeable)
  rw [List.nil_append] at loop
  have output : (conn.mergedData false).2 = mergeItems false conn.items := by
    unfold mergedData
    split
    · rename_i empty
      rw [empty]
      rfl
    · rfl
  rw [output, mergeItems, loop]
  exact tagged

/-- After a merge both buffers are empty, also when there was nothing to
merge. -/
theorem mergedData_buffer (direction : Direction) :
    ((conn.mergedData false).1).buffer direction =
      (conn.buffer direction).cleared := by
  unfold mergedData
  split
  · rename_i nothing
    have empty := buffers_of_items_nil nothing direction
    exact (cleared_of_empty (wellFormed direction) empty.1 empty.2).symm
  · cases direction <;> rfl

end Merge

end Connection

end DpktNg.Stream
