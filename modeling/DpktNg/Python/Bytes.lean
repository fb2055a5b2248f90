/-
Byte strings.  A `bytes` or `bytearray` value is the list of its bytes, since
nothing in the modelled code depends on the difference between the two.

Searching in them: `find`, `rfind`, and the pieces of the regular expressions
that the library uses, with the backtracking of `re`.
-/

import DpktNg.Library.Slices

namespace DpktNg

abbrev Bytes := List UInt8

/-- `b'\x00' * count` -/
def zeros (count : Nat) : Bytes := List.replicate count 0

@[simp] theorem zeros_length (count : Nat) : (zeros count).length = count :=
  List.length_replicate

@[simp] theorem zeros_zero : zeros 0 = [] := rfl

def upperByte (byte : UInt8) : UInt8 :=
  if 0x61 ≤ byte ∧ byte ≤ 0x7a then byte - 0x20 else byte

def upper (bytes : Bytes) : Bytes := bytes.map upperByte

/-- A property of every byte, from a table of the 256 values. -/
theorem forall_byte {P : UInt8 → Prop} (table : ∀ n < 256, P (UInt8.ofNat n))
    (byte : UInt8) : P byte := by
  have here := table byte.toNat byte.toNat_lt
  rw [UInt8.ofNat_toNat] at here
  exact here

/-- `hay.find(needle)`, `none` for -1. -/
def findBytes (needle : Bytes) : Bytes → Option Nat
  | [] => if needle = [] then some 0 else none
  | byte :: rest =>
      if needle.isPrefixOf (byte :: rest) then some 0
      else (findBytes needle rest).map (· + 1)

/-- `hay.rfind(needle)`, `none` for -1. -/
def rfindBytes (needle : Bytes) : Bytes → Option Nat
  | [] => if needle = [] then some 0 else none
  | byte :: rest =>
      match rfindBytes needle rest with
      | some index => some (index + 1)
      | none => if needle.isPrefixOf (byte :: rest) then some 0 else none

/-! ### Regular expressions

A pattern is a function from the bytes at a position to what it captures there.
-/

abbrev Pattern (α : Type) := Bytes → Option α

/-- `re.search`: the leftmost position at which the pattern matches. -/
def searchBytes {α : Type} (matchAt : Pattern α) : Pattern α
  | [] => matchAt []
  | byte :: rest =>
      match matchAt (byte :: rest) with
      | some captured => some captured
      | none => searchBytes matchAt rest

/-- A greedy `[...]*` followed by a pattern: as many bytes of the class as
possible, one less each time the rest does not match. -/
def greedyThen {α : Type} (inClass : UInt8 → Bool) (matchAt : Pattern α) :
    Pattern α
  | [] => matchAt []
  | byte :: rest =>
      if inClass byte then
        match greedyThen inClass matchAt rest with
        | some captured => some captured
        | none => matchAt (byte :: rest)
      else matchAt (byte :: rest)

def lowerByte (byte : UInt8) : UInt8 :=
  if 0x41 ≤ byte ∧ byte ≤ 0x5a then byte + 0x20 else byte

/-- A literal under `re.IGNORECASE`, followed by a pattern. -/
def literalThen {α : Type} (literal : Bytes) (matchAt : Pattern α) :
    Pattern α := fun bytes =>
  if (bytes.take literal.length).map lowerByte = literal.map lowerByte then
    matchAt (bytes.drop literal.length)
  else none

/-- `"?([^"\r\n]+)"?` -/
def optionallyQuoted : Pattern Bytes := fun bytes =>
  let unquoted :=
    match bytes with
    | 0x22 :: rest => rest
    | _ => bytes
  let value := unquoted.takeWhile fun byte =>
    byte ≠ 0x22 ∧ byte ≠ 0x0d ∧ byte ≠ 0x0a
  if value = [] then none else some value

/-- `\s` for byte patterns -/
def isSpaceByte (byte : UInt8) : Bool :=
  byte = 0x20 ∨ (0x09 ≤ byte ∧ byte ≤ 0x0d)

/-- `[^\r\n;]+` -/
def untilSemicolon : Pattern Bytes := fun bytes =>
  let value := bytes.takeWhile fun byte =>
    byte ≠ 0x0d ∧ byte ≠ 0x0a ∧ byte ≠ 0x3b
  if value = [] then none else some value

end DpktNg
