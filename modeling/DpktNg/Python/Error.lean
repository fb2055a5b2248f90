/-
Exceptions that parsing and packing raise: those of Python and `struct`, and
those of dpkt/dpkt.py with their messages.
-/

import DpktNg.Library.Codec
import DpktNg.Python.Str

namespace DpktNg

open Library

inductive PyError where
  | structError
  | indexError
  | attributeError
  | typeError
  | unicodeError
  /-- `dpkt.NeedData` -/
  | needData (message : PyStr)
  /-- `dpkt.UnpackError` -/
  | unpackError (message : PyStr)
  /-- `dpkt.PackError` -/
  | packError (message : PyStr)
  /-- Any other class, such as `ValueError` or the exception of a module. -/
  | other (className : String) (message : PyStr)
deriving DecidableEq, Repr

/-- `dpkt.UnpackError` and its subclass `dpkt.NeedData`. -/
def PyError.IsUnpackError : PyError → Prop
  | .needData _ => True
  | .unpackError _ => True
  | _ => False

instance : DecidablePred PyError.IsUnpackError := fun problem => by
  cases problem <;> unfold PyError.IsUnpackError <;> infer_instance

/-- `'got %d, %d needed at least' % (got, needed)` -/
def PyError.tooShort (got needed : Nat) : PyError :=
  .needData ("got ".toList ++ decimal got ++ ", ".toList ++ decimal needed ++
    " needed at least".toList)

/-- `'invalid %s: %r' % (name, buf)` -/
def PyError.invalid (className : String) (buf : Bytes) : PyError :=
  .unpackError ("invalid ".toList ++ className.toList ++ ": ".toList ++
    reprBytes buf)

/-- The errors of `unpack` from which `Packet.__init__` makes errors of the
library, and these. -/
def HeaderError (problem : PyError) : Prop :=
  problem = .structError ∨ problem.IsUnpackError

instance : DecidablePred HeaderError := fun problem =>
  inferInstanceAs (Decidable (problem = .structError ∨ problem.IsUnpackError))

/-- `Packet.__init__` on a buffer: what `unpack` raises as `struct.error`
becomes an error of the library.  A class without `__hdr__` has no
`__hdr_len__`, so there the handler itself raises. -/
def packetInit {α : Type} (className : String) (hdrLen : Option Nat)
    (unpack : Bytes → Except PyError α) (buf : Bytes) : Except PyError α :=
  match unpack buf with
  | .error .structError =>
      match hdrLen with
      | none => .error .attributeError
      | some needed =>
          if buf.length < needed then .error (.tooShort buf.length needed)
          else .error (.invalid className buf)
  | result => result

theorem packetInit_eq_ok {α : Type} {className : String}
    {hdrLen : Option Nat} {unpack : Bytes → Except PyError α} {buf : Bytes}
    {value : α} :
    packetInit className hdrLen unpack buf = .ok value ↔
      unpack buf = .ok value := by
  unfold packetInit
  split
  · rename_i failed
    rw [failed]
    constructor
    · intro impossible
      split at impossible
      · cases impossible
      · split at impossible <;> cases impossible
    · intro impossible
      cases impossible
  · exact Iff.rfl

theorem packetInit_short {α : Type} {className : String} {needed : Nat}
    {unpack : Bytes → Except PyError α} {buf : Bytes}
    (raised : unpack buf = .error .structError)
    (short : buf.length < needed) :
    packetInit className (some needed) unpack buf =
      .error (.tooShort buf.length needed) := by
  unfold packetInit
  rw [raised]
  exact if_pos short

theorem packetInit_passes {α : Type} {className : String}
    {hdrLen : Option Nat} {unpack : Bytes → Except PyError α} {buf : Bytes}
    {problem : PyError} (raised : unpack buf = .error problem)
    (notStruct : problem ≠ .structError) :
    packetInit className hdrLen unpack buf = .error problem := by
  unfold packetInit
  split
  · rename_i struct
    rw [raised, Except.error.injEq] at struct
    exact absurd struct notStruct
  · exact raised

theorem packetInit_congr {α : Type} {className : String}
    {hdrLen : Option Nat} {unpack unpack' : Bytes → Except PyError α}
    {buf : Bytes} (same : unpack buf = unpack' buf) :
    packetInit className hdrLen unpack buf =
      packetInit className hdrLen unpack' buf := by
  unfold packetInit
  rw [same]

/-- `Packet.__init__` turns `struct.error` into an error of the library. -/
theorem packetInit_raisesOnly {α : Type} {className : String} {needed : Nat}
    {unpack : Bytes → Except PyError α} {buf : Bytes}
    (raises : RaisesOnly HeaderError (unpack buf)) :
    RaisesOnly PyError.IsUnpackError
      (packetInit className (some needed) unpack buf) := by
  unfold packetInit
  split
  · dsimp only
    split
    · exact raisesOnly_error.mpr trivial
    · exact raisesOnly_error.mpr trivial
  · rename_i notStruct
    intro problem raised
    rcases raises problem raised with struct | library
    · rw [struct] at raised
      exact absurd raised notStruct
    · exact library

/-- What leaves `Packet.__init__` is neither of the library nor
`struct.error`. -/
theorem packetInit_escapes {α : Type} {className : String} {needed : Nat}
    {unpack : Bytes → Except PyError α} {buf : Bytes} :
    Escapes PyError.IsUnpackError
        (packetInit className (some needed) unpack buf) ↔
      Escapes HeaderError (unpack buf) := by
  unfold packetInit
  split
  · rename_i failed
    rw [failed]
    constructor
    · intro impossible
      dsimp only at impossible
      split at impossible
      · exact absurd trivial (escapes_error.mp impossible)
      · exact absurd trivial (escapes_error.mp impossible)
    · intro impossible
      have refused := escapes_error.mp impossible
      exact absurd (Or.inl rfl) refused
  · rename_i notStruct
    constructor
    · rintro ⟨problem, raised, refused⟩
      refine ⟨problem, raised, ?_⟩
      rintro (struct | library)
      · rw [struct] at raised
        exact notStruct raised
      · exact refused library
    · rintro ⟨problem, raised, refused⟩
      exact ⟨problem, raised, fun library => refused (Or.inr library)⟩

theorem packetInit_ne_structError {α : Type} {className : String}
    {needed : Nat} {unpack : Bytes → Except PyError α} {buf : Bytes} :
    packetInit className (some needed) unpack buf ≠ .error .structError := by
  intro raised
  unfold packetInit at raised
  split at raised
  · dsimp only at raised
    split at raised
    · cases raised
    · cases raised
  · rename_i notStruct
    exact notStruct raised

end DpktNg
