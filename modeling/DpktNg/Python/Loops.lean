/-
Loops that parse one item after another, and that write one after another.  A
chunk is an item's bytes when the parser takes them for that item whatever
comes behind; the loops then go from chunk to chunk.
-/

import DpktNg.Python.Struct

namespace DpktNg

open Library

variable {α : Type} {parse : Bytes → Except PyError α} {size : α → Nat}
  {positive : ∀ item, 0 < size item}

/-- In front of any rest the chunk is parsed as the item, of its size. -/
structure Parses (parse : Bytes → Except PyError α) (size : α → Nat)
    (chunk : Bytes) (item : α) : Prop where
  parsed : ∀ rest, parse (chunk ++ rest) = .ok item
  size_eq : size item = chunk.length

theorem Parses.drop {chunk : Bytes} {item : α}
    (parses : Parses parse size chunk item) (rest : Bytes) :
    (chunk ++ rest).drop (size item) = rest :=
  List.drop_left' parses.size_eq.symm

theorem Parses.sizes {chunks : List Bytes} {items : List α}
    (all : List.Forall₂ (Parses parse size) chunks items) :
    (items.map size).sum = chunks.flatten.length := by
  induction all with
  | nil => rfl
  | cons first others ih =>
      rw [List.map_cons, List.sum_cons, List.flatten_cons, List.length_append,
        first.size_eq, ih]

theorem parseAll_nil : parseAll parse size positive [] = .ok [] := by
  rw [parseAll]

theorem parseAll_of_ne_nil {data : Bytes} (some_left : data ≠ []) :
    parseAll parse size positive data = (do
      let item ← parse data
      let items ← parseAll parse size positive (data.drop (size item))
      .ok (item :: items)) := by
  cases data with
  | nil => exact absurd rfl some_left
  | cons byte rest => rw [parseAll]

theorem parseAll_chunk {chunk : Bytes} {item : α}
    (parses : Parses parse size chunk item) (rest : Bytes) :
    parseAll parse size positive (chunk ++ rest) = (do
      let items ← parseAll parse size positive rest
      .ok (item :: items)) := by
  have some_left : chunk ++ rest ≠ [] := by
    intro empty
    have bound := positive item
    have length := congrArg List.length empty
    rw [List.length_append, List.length_nil, ← parses.size_eq] at length
    omega
  rw [parseAll_of_ne_nil some_left, parses.parsed rest, ok_bind,
    parses.drop rest]

/-- `parseAll` passes the chunks of its items. -/
theorem parseAll_chunks {chunks : List Bytes} {items : List α}
    (all : List.Forall₂ (Parses parse size) chunks items) (rest : Bytes) :
    parseAll parse size positive (chunks.flatten ++ rest) = (do
      let others ← parseAll parse size positive rest
      .ok (items ++ others)) := by
  induction all with
  | nil =>
      rw [List.flatten_nil, List.nil_append]
      cases parseAll parse size positive rest with
      | error problem => rfl
      | ok others => rfl
  | cons first others ih =>
      rw [List.flatten_cons, List.append_assoc, parseAll_chunk first, ih]
      cases parseAll parse size positive rest with
      | error problem => rfl
      | ok others => rfl

theorem parseAll_flatten {chunks : List Bytes} {items : List α}
    (all : List.Forall₂ (Parses parse size) chunks items) :
    parseAll parse size positive chunks.flatten = .ok items := by
  have whole : parseAll parse size positive (chunks.flatten ++ []) = _ :=
    parseAll_chunks all []
  rw [List.append_nil, parseAll_nil, ok_bind, List.append_nil] at whole
  exact whole

theorem parseAll_eq_nil {data : Bytes}
    (parsed : parseAll parse size positive data = .ok []) : data = [] := by
  cases data with
  | nil => rfl
  | cons byte rest =>
      rw [parseAll] at parsed
      obtain ⟨item, _first, others⟩ := bind_eq_ok.mp parsed
      obtain ⟨items, _rest, impossible⟩ := bind_eq_ok.mp others
      cases impossible

theorem parseAll_eq_cons {data : Bytes} {item : α} {items : List α}
    (parsed : parseAll parse size positive data = .ok (item :: items)) :
    parse data = .ok item ∧
      parseAll parse size positive (data.drop (size item)) = .ok items := by
  cases data with
  | nil =>
      rw [parseAll] at parsed
      cases parsed
  | cons byte rest =>
      rw [parseAll] at parsed
      obtain ⟨first, parsedFirst, others⟩ := bind_eq_ok.mp parsed
      obtain ⟨more, parsedRest, same⟩ := bind_eq_ok.mp others
      cases same
      exact ⟨parsedFirst, parsedRest⟩

/-- Items that are never larger than the data they were parsed from take all of
it together. -/
theorem parseAll_sizes
    (within : ∀ data item, parse data = .ok item → size item ≤ data.length)
    {data : Bytes} {items : List α}
    (parsed : parseAll parse size positive data = .ok items) :
    (items.map size).sum = data.length := by
  induction items generalizing data with
  | nil =>
      rw [parseAll_eq_nil parsed]
      rfl
  | cons item items ih =>
      obtain ⟨parsedFirst, parsedRest⟩ := parseAll_eq_cons parsed
      have bound := within _ _ parsedFirst
      rw [List.map_cons, List.sum_cons, ih parsedRest, List.length_drop]
      omega

theorem parseAll_forall {Holds : α → Prop}
    (each : ∀ data item, parse data = .ok item → Holds item)
    {data : Bytes} {items : List α}
    (parsed : parseAll parse size positive data = .ok items) :
    ∀ item ∈ items, Holds item := by
  induction items generalizing data with
  | nil =>
      intro item impossible
      cases impossible
  | cons item items ih =>
      obtain ⟨parsedFirst, parsedRest⟩ := parseAll_eq_cons parsed
      rw [List.forall_mem_cons]
      exact ⟨each _ _ parsedFirst, ih parsedRest⟩

theorem parseCounted_chunk {chunk : Bytes} {item : α}
    (parses : Parses parse size chunk item) (count : Nat) (rest : Bytes) :
    parseCounted parse size positive ((chunk.length + count : Nat) : Int)
        (chunk ++ rest) = (do
      let (items, behind) ← parseCounted parse size positive count rest
      .ok (item :: items, behind)) := by
  have bound := positive item
  have more : ((chunk.length + count : Nat) : Int) > 0 := by
    rw [← parses.size_eq]
    omega
  have left : ((chunk.length + count : Nat) : Int) - size item = count := by
    rw [parses.size_eq]
    omega
  rw [parseCounted, if_pos more, parses.parsed rest, ok_bind,
    parses.drop rest, left]

theorem parseCounted_chunks {chunks : List Bytes} {items : List α}
    (all : List.Forall₂ (Parses parse size) chunks items) (count : Nat)
    (rest : Bytes) :
    parseCounted parse size positive
        ((chunks.flatten.length + count : Nat) : Int)
        (chunks.flatten ++ rest) = (do
      let (others, behind) ← parseCounted parse size positive count rest
      .ok (items ++ others, behind)) := by
  induction all with
  | nil =>
      rw [List.flatten_nil, List.nil_append, List.length_nil, Nat.zero_add]
      cases parseCounted parse size positive count rest with
      | error problem => rfl
      | ok others => rfl
  | cons first others ih =>
      rw [List.flatten_cons, List.length_append, Nat.add_assoc,
        List.append_assoc, parseCounted_chunk first, ih]
      cases parseCounted parse size positive count rest with
      | error problem => rfl
      | ok others => rfl

theorem parseCounted_zero (data : Bytes) :
    parseCounted parse size positive 0 data = .ok ([], data) := by
  rw [parseCounted, if_neg (by omega)]

theorem parseCounted_flatten {chunks : List Bytes} {items : List α}
    (all : List.Forall₂ (Parses parse size) chunks items) (rest : Bytes) :
    parseCounted parse size positive (chunks.flatten.length : Int)
        (chunks.flatten ++ rest) = .ok (items, rest) := by
  have whole : parseCounted parse size positive
      ((chunks.flatten.length + 0 : Nat) : Int) (chunks.flatten ++ rest) = _ :=
    parseCounted_chunks all 0 rest
  rw [Nat.add_zero] at whole
  rw [whole, Int.natCast_zero, parseCounted_zero, ok_bind]
  dsimp only
  rw [List.append_nil]

/-- `b''.join(map(bytes, items))` -/
def joinBytes (bytes : α → Except PyError Bytes) :
    List α → Except PyError Bytes
  | [] => .ok []
  | item :: rest => do
      .ok ((← bytes item) ++ (← joinBytes bytes rest))

variable {bytes : α → Except PyError Bytes}

theorem joinBytes_chunks {chunks : List Bytes} {items : List α}
    (all : List.Forall₂ (fun chunk item => bytes item = .ok chunk)
      chunks items) :
    joinBytes bytes items = .ok chunks.flatten := by
  induction all with
  | nil => rfl
  | cons first others ih =>
      rw [joinBytes, first, ok_bind, ih, ok_bind, List.flatten_cons]

/-- Items that are written as the bytes they were parsed from give the data
again. -/
theorem joinBytes_parseAll
    (rewritten : ∀ {data item}, parse data = .ok item →
      bytes item = .ok (data.take (size item)))
    {data : Bytes} {items : List α}
    (parsed : parseAll parse size positive data = .ok items) :
    joinBytes bytes items = .ok data := by
  induction items generalizing data with
  | nil =>
      rw [parseAll_eq_nil parsed]
      rfl
  | cons item items ih =>
      obtain ⟨parsedFirst, parsedRest⟩ := parseAll_eq_cons parsed
      rw [joinBytes, rewritten parsedFirst, ok_bind, ih parsedRest, ok_bind,
        List.take_append_drop]

/-- The chunk is parsed as an item that is written as the same bytes. -/
def Restored (parse : Bytes → Except PyError α) (size : α → Nat)
    (bytes : α → Except PyError Bytes) (chunk : Bytes) : Prop :=
  ∃ item, Parses parse size chunk item ∧ bytes item = .ok chunk

theorem Restored.items {chunks : List Bytes}
    (all : ∀ chunk ∈ chunks, Restored parse size bytes chunk) :
    ∃ items, List.Forall₂ (Parses parse size) chunks items ∧
      joinBytes bytes items = .ok chunks.flatten := by
  induction chunks with
  | nil => exact ⟨[], .nil, rfl⟩
  | cons chunk rest ih =>
      rw [List.forall_mem_cons] at all
      obtain ⟨item, parses, written⟩ := all.1
      obtain ⟨items, others, joined⟩ := ih all.2
      refine ⟨item :: items, .cons parses others, ?_⟩
      rw [joinBytes, written, ok_bind, joined, ok_bind, List.flatten_cons]

end DpktNg
