/-
What a packet keeps behind its header: bytes, or the packet that a registered
class has made of them.
-/

import DpktNg.Python.Struct

namespace DpktNg

open Library

inductive Payload (P : Type) where
  | raw (bytes : Bytes)
  | packet (inner : P)
deriving DecidableEq, Repr

/-- `KeyError`, which a missing number raises as well. -/
def PyError.IsKeyError : PyError → Prop
  | .other className _message => className = "KeyError"
  | _ => False

instance : DecidablePred PyError.IsKeyError
  | .structError | .indexError | .attributeError | .typeError
  | .unicodeError | .needData _ | .unpackError _ | .packError _ =>
      inferInstanceAs (Decidable False)
  | .other className _ => inferInstanceAs (Decidable (className = "KeyError"))

/-- The classes that are registered for a number, and what `bytes` and `len`
make of their packets. -/
structure Registry (P : Type) where
  lookup : Nat → Option (Bytes → Except PyError P)
  bytes : P → Except PyError Bytes
  len : P → Nat

def Registry.empty : Registry Unit where
  lookup _number := none
  bytes _packet := .ok []
  len _packet := 0

namespace Payload

variable {P : Type} (registry : Registry P)

/-- `self.data = registered[number](self.data)`, where the bytes stay if no
class is registered or if the error is one that is caught with `KeyError`. -/
def decode (Caught : PyError → Prop) [DecidablePred Caught] (number : Nat)
    (buf : Bytes) : Except PyError (Payload P) :=
  match registry.lookup number with
  | none => .ok (.raw buf)
  | some cls =>
      match cls buf with
      | .ok inner => .ok (.packet inner)
      | .error problem =>
          if Caught problem ∨ problem.IsKeyError then .ok (.raw buf)
          else .error problem

def bytes : Payload P → Except PyError Bytes
  | .raw bytes => .ok bytes
  | .packet inner => registry.bytes inner

def size : Payload P → Nat
  | .raw bytes => bytes.length
  | .packet inner => registry.len inner

variable {registry}

theorem decode_unregistered {Caught : PyError → Prop} [DecidablePred Caught]
    {number : Nat} (unregistered : registry.lookup number = none)
    (buf : Bytes) : decode registry Caught number buf = .ok (.raw buf) := by
  unfold decode
  rw [unregistered]

end Payload

end DpktNg
