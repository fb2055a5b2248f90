/-
Pieces that stand one after the other, and walking over them: lists of pieces of
known size that cover a range without overlap, and loops that go through a list
with a pointer while it is below a limit.  The limit may fall short of where the
items end.
-/

import Mathlib

namespace DpktNg.Library

section Pieces

variable {Piece : Type} (pieceAt : Nat → Option Piece) (size : Piece → Nat)

/-- The pieces cover the places from `start` up to `stop`. -/
def Tiles : Nat → List Piece → Nat → Prop
  | start, [], stop => start = stop
  | start, piece :: rest, stop =>
      pieceAt start = some piece ∧ Tiles (start + size piece) rest stop

/-- In front of `stop`, walking goes on behind the piece that stands here. -/
def Follows (stop place next : Nat) : Prop :=
  place < stop ∧
    ∃ piece, pieceAt place = some piece ∧ next = place + size piece

/-- The places at which walking from `start` arrives. -/
def Arrives (stop start : Nat) : Nat → Prop :=
  Relation.ReflTransGen (Follows pieceAt size stop) start

end Pieces

section

variable {Piece : Type} {pieceAt : Nat → Option Piece} {size : Piece → Nat}
  {start stop : Nat}

theorem Tiles.le {pieces : List Piece}
    (tiles : Tiles pieceAt size start pieces stop) : start ≤ stop := by
  induction pieces generalizing start with
  | nil => exact Nat.le_of_eq tiles
  | cons piece rest ih => exact Nat.le_of_add_right_le (ih tiles.2)

/-- Over pieces that tile the range, walking arrives nowhere behind it. -/
theorem Tiles.arrives_le {pieces : List Piece}
    (tiles : Tiles pieceAt size start pieces stop) {place : Nat}
    (arrives : Arrives pieceAt size stop start place) : place ≤ stop := by
  induction pieces generalizing start with
  | nil =>
      have none : start = stop := tiles
      rcases arrives.cases_head with same | ⟨_next, ⟨inside, _piece⟩, _later⟩
      · omega
      · omega
  | cons piece rest ih =>
      obtain ⟨here, behind⟩ := tiles
      rcases arrives.cases_head with
        same | ⟨next, ⟨_inside, other, found, rfl⟩, later⟩
      · rw [← same]
        exact Nat.le_of_add_right_le behind.le
      · rw [here, Option.some.injEq] at found
        rw [← found] at later
        exact ih behind later

theorem Arrives.step {piece : Piece} {place : Nat} (inside : start < stop)
    (here : pieceAt start = some piece)
    (later : Arrives pieceAt size stop (start + size piece) place) :
    Arrives pieceAt size stop start place :=
  Relation.ReflTransGen.head ⟨inside, piece, here, rfl⟩ later

end

variable {ε α β : Type}

/-- What reads one item from the front of a list, with the number of elements
that it takes. -/
structure ItemReader (ε α β : Type) where
  read : List α → Except ε (β × Nat)
  positive : ∀ {xs item size}, read xs = .ok (item, size) → 0 < size

namespace ItemReader

variable (reader : ItemReader ε α β)

/-- `while pointer < limit` -/
def walk (buf : List α) (limit pointer : Nat) : Except ε (List β) :=
  if pointer < limit then
    match _read : reader.read (buf.drop pointer) with
    | .error problem => .error problem
    | .ok (item, size) => do
        let items ← walk buf limit (pointer + size)
        .ok (item :: items)
  else .ok []
termination_by limit - pointer
decreasing_by
  have := reader.positive _read
  omega

/-- The chunk is read as the item whatever stands behind it. -/
structure Reads (chunk : List α) (item : β) : Prop where
  read : ∀ behind, reader.read (chunk ++ behind) = .ok (item, chunk.length)

variable {reader} {buf : List α} {limit pointer : Nat}

theorem walk_stops (reached : limit ≤ pointer) :
    reader.walk buf limit pointer = .ok [] := by
  rw [walk, if_neg (Nat.not_lt.mpr reached)]

theorem walk_item {item : β} {size : Nat} (before : pointer < limit)
    (read : reader.read (buf.drop pointer) = .ok (item, size)) :
    reader.walk buf limit pointer = (do
      let items ← reader.walk buf limit (pointer + size)
      .ok (item :: items)) := by
  rw [walk, if_pos before]
  split
  · rename_i problem failed
    rw [read] at failed
    cases failed
  · rename_i item' size' same
    rw [read] at same
    cases same
    rfl

/-- A limit that falls short of the end by less than any chunk lets every
item in. -/
theorem walk_chunks {slack : Nat} {chunks : List (List α)} {items : List β}
    (reads : List.Forall₂ reader.Reads chunks items)
    (long : ∀ chunk ∈ chunks, slack < chunk.length) (front behind : List α) :
    reader.walk (front ++ (chunks.flatten ++ behind))
      (front.length + chunks.flatten.length - slack) front.length =
        .ok items := by
  induction reads generalizing front with
  | nil =>
      refine walk_stops ?_
      rw [List.flatten_nil, List.length_nil]
      omega
  | @cons chunk item chunks items first _others ih =>
      rw [List.forall_mem_cons] at long
      have before : front.length <
          front.length + (chunk :: chunks).flatten.length - slack := by
        have := long.1
        rw [List.flatten_cons, List.length_append]
        omega
      have read : reader.read
          ((front ++ ((chunk :: chunks).flatten ++ behind)).drop
            front.length) = .ok (item, chunk.length) := by
        rw [List.drop_left, List.flatten_cons, List.append_assoc]
        exact first.read (chunks.flatten ++ behind)
      have rest := ih long.2 (front ++ chunk)
      rw [List.append_assoc, List.length_append, ← List.append_assoc chunk,
        Nat.add_assoc, ← List.length_append, ← List.flatten_cons] at rest
      rw [walk_item before read, rest]
      rfl

variable (reader) in
/-- `while pointer + need <= len(buf)` -/
def strides (need : Nat) (buf : List α) (pointer : Nat) : Except ε (List β) :=
  reader.walk buf (buf.length + 1 - need) pointer

/-- Where `need` elements are enough to read an item, nothing is raised. -/
theorem strides_total {need : Nat} (positive : 0 < need)
    (reads : ∀ xs, need ≤ xs.length → ∃ found, reader.read xs = .ok found)
    (buf : List α) (pointer : Nat) :
    ∃ items, reader.strides need buf pointer = .ok items := by
  unfold strides
  induction left : buf.length - pointer using Nat.strong_induction_on
    generalizing pointer with
  | h left' ih =>
      rcases Nat.lt_or_ge pointer (buf.length + 1 - need) with before | reached
      · have enough : need ≤ (buf.drop pointer).length := by
          rw [List.length_drop]
          omega
        obtain ⟨⟨item, size⟩, read⟩ := reads _ enough
        have advances := reader.positive read
        obtain ⟨items, walked⟩ :=
          ih (buf.length - (pointer + size)) (by omega) _ rfl
        refine ⟨item :: items, ?_⟩
        rw [walk_item before read, walked]
        rfl
      · exact ⟨[], walk_stops reached⟩

/-- Chunks of at least `need` elements up to the end of the list are all
read. -/
theorem strides_chunks {need : Nat} {chunks : List (List α)} {items : List β}
    (positive : 0 < need) (reads : List.Forall₂ reader.Reads chunks items)
    (long : ∀ chunk ∈ chunks, need ≤ chunk.length) (front : List α) :
    reader.strides need (front ++ chunks.flatten) front.length =
      .ok items := by
  have walked := walk_chunks reads
    (fun chunk among => Nat.lt_of_lt_of_le (Nat.sub_one_lt_of_lt positive)
      (long chunk among)) front []
  have limit : (front ++ chunks.flatten).length + 1 - need =
      front.length + chunks.flatten.length - (need - 1) := by
    rw [List.length_append]
    omega
  rw [List.append_nil] at walked
  unfold strides
  rw [limit]
  exact walked

theorem strides_entries {Entry : Type} {need : Nat} (positive : 0 < need)
    {chunk : Entry → List α} {item : Entry → β}
    (reads : ∀ entry, reader.Reads (chunk entry) (item entry))
    (long : ∀ entry, need ≤ (chunk entry).length) (entries : List Entry) :
    reader.strides need (entries.flatMap chunk) 0 =
      .ok (entries.map item) := by
  have all : List.Forall₂ reader.Reads (entries.map chunk)
      (entries.map item) := by
    rw [List.forall₂_map_left_iff, List.forall₂_map_right_iff]
    exact List.forall₂_same.mpr fun entry _in => reads entry
  have read := strides_chunks positive all (by
    intro piece among
    obtain ⟨entry, _in, rfl⟩ := List.mem_map.mp among
    exact long entry) []
  rw [List.flatMap_def]
  exact read

end ItemReader

end DpktNg.Library
