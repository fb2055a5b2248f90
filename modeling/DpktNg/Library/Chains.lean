/-
Sequences stored in cells with back references.  A cell ends its sequence,
holds one item before the next cell, or jumps to a cell where the rest of the
sequence was stored earlier.  Jumps must lead strictly below a bound, which
each jump lowers to its own target; so every chain ends.
-/

import Mathlib

namespace DpktNg.Library

inductive Cell (Item : Type) where
  | stop (next : Nat)
  | item (value : Item) (next : Nat)
  | jump (target next : Nat)
deriving DecidableEq, Repr

/-- What is stored at an address, `none` where no complete cell is. -/
abbrev Cells (Item : Type) := Nat → Option (Cell Item)

variable {Item : Type}

/-- Every cell of the first store is in the second one as well. -/
def Cells.Extends (cells cells' : Cells Item) : Prop :=
  ∀ addr cell, cells addr = some cell → cells' addr = some cell

/-- From `addr` the cells spell `items`, when jumps lead below `bound`; the
cells of the sequence in place end before `behind`. -/
inductive Spells (cells : Cells Item) : Nat → Nat → List Item → Nat → Prop
  | stop {bound addr next : Nat} (at_cell : cells addr = some (.stop next)) :
      Spells cells bound addr [] next
  | item {bound addr next behind : Nat} {value : Item} {items : List Item}
      (at_cell : cells addr = some (.item value next))
      (rest : Spells cells bound next items behind) :
      Spells cells bound addr (value :: items) behind
  | jump {bound addr target next behind : Nat} {items : List Item}
      (at_cell : cells addr = some (.jump target next))
      (below : target < bound)
      (rest : Spells cells target target items behind) :
      Spells cells bound addr items next

namespace Spells

variable {cells cells' : Cells Item} {bound bound' addr behind : Nat}
  {items : List Item}

theorem present (spelled : Spells cells bound addr items behind) :
    cells addr ≠ none := by
  cases spelled with
  | stop at_cell => rw [at_cell]; exact Option.some_ne_none _
  | item at_cell _rest => rw [at_cell]; exact Option.some_ne_none _
  | jump at_cell _below _rest => rw [at_cell]; exact Option.some_ne_none _

/-- Storing more behind what is there changes no sequence. -/
theorem extend (extends_ : cells.Extends cells')
    (spelled : Spells cells bound addr items behind) :
    Spells cells' bound addr items behind := by
  induction spelled with
  | stop at_cell => exact .stop (extends_ _ _ at_cell)
  | item at_cell _rest ih => exact .item (extends_ _ _ at_cell) ih
  | jump at_cell below _rest ih => exact .jump (extends_ _ _ at_cell) below ih

theorem raise (higher : bound ≤ bound')
    (spelled : Spells cells bound addr items behind) :
    Spells cells bound' addr items behind := by
  induction spelled with
  | stop at_cell => exact .stop at_cell
  | item at_cell _rest ih => exact .item at_cell (ih higher)
  | jump at_cell below rest _ih =>
      exact .jump at_cell (Nat.lt_of_lt_of_le below higher) rest

/-- What the cells spell does not depend on the bound. -/
theorem unique {items' : List Item} {behind' : Nat}
    (spelled : Spells cells bound addr items behind)
    (spelled' : Spells cells bound' addr items' behind') :
    items = items' ∧ behind = behind' := by
  induction spelled generalizing bound' items' behind' with
  | stop at_cell =>
      cases spelled' with
      | stop other =>
          rw [at_cell, Option.some.injEq, Cell.stop.injEq] at other
          exact ⟨rfl, other⟩
      | item other _rest =>
          rw [at_cell] at other
          cases other
      | jump other _below _rest =>
          rw [at_cell] at other
          cases other
  | item at_cell _rest ih =>
      cases spelled' with
      | stop other =>
          rw [at_cell] at other
          cases other
      | item other rest' =>
          rw [at_cell, Option.some.injEq, Cell.item.injEq] at other
          rw [← other.2] at rest'
          obtain ⟨sameItems, sameEnd⟩ := ih rest'
          exact ⟨by rw [other.1, sameItems], sameEnd⟩
      | jump other _below _rest =>
          rw [at_cell] at other
          cases other
  | jump at_cell _below _rest ih =>
      cases spelled' with
      | stop other =>
          rw [at_cell] at other
          cases other
      | item other _rest =>
          rw [at_cell] at other
          cases other
      | jump other _below rest' =>
          rw [at_cell, Option.some.injEq, Cell.jump.injEq] at other
          rw [← other.1] at rest'
          exact ⟨(ih rest').1, other.2⟩

end Spells

/-- The same cell, stored `base` addresses further on.  Where a jump leads does
not move with it. -/
def Cell.shift (base : Nat) : Cell Item → Cell Item
  | .stop next => .stop (base + next)
  | .item value next => .item value (base + next)
  | .jump target next => .jump target (base + next)

/-- The cells of a piece stand in a store, `base` addresses further on. -/
def Cells.PlacedAt (piece cells : Cells Item) (base : Nat) : Prop :=
  ∀ addr cell, piece addr = some cell →
    cells (base + addr) = some (cell.shift base)

/-- From `addr` the cells of a piece spell `items`, at most up to a jump to a
sequence that is stored in `cells`. -/
inductive SpellsInto (piece cells : Cells Item) : Nat → List Item → Nat → Prop
  | stop {addr next : Nat} (at_cell : piece addr = some (.stop next)) :
      SpellsInto piece cells addr [] next
  | item {addr next behind : Nat} {value : Item} {items : List Item}
      (at_cell : piece addr = some (.item value next))
      (rest : SpellsInto piece cells next items behind) :
      SpellsInto piece cells addr (value :: items) behind
  | jump {addr target next behind : Nat} {items : List Item}
      (at_cell : piece addr = some (.jump target next))
      (rest : Spells cells target target items behind) :
      SpellsInto piece cells addr items next

/-- A piece may be stored anywhere in a store that keeps the cells its jumps
lead to. -/
theorem SpellsInto.spells {piece cells cells' : Cells Item}
    {base bound addr behind : Nat} {items : List Item}
    (placed : piece.PlacedAt cells' base) (extends_ : cells.Extends cells')
    (below : ∀ target, cells target ≠ none → target < bound)
    (spelled : SpellsInto piece cells addr items behind) :
    Spells cells' bound (base + addr) items (base + behind) := by
  induction spelled with
  | stop at_cell => exact .stop (placed _ _ at_cell)
  | item at_cell _rest ih => exact .item (placed _ _ at_cell) ih
  | jump at_cell rest =>
      exact .jump (placed _ _ at_cell) (below _ rest.present)
        (rest.extend extends_)

end DpktNg.Library
