/-
What constructors and parsing loops examine: which errors leave the base
constructor of a class with a header and of one without, and the items that a
loop comes across.
-/

import DpktNg.Library.Checks
import DpktNg.Python.Struct

namespace DpktNg

open Library

variable {Text α β : Type} {Bad : Text → Prop} {view : α → β}
  {shown : Shown Text β}

theorem packetInit_notStruct {className : String} {hdrLen : Option Nat}
    {unpack : Bytes → Except PyError α} {buf : Bytes} :
    packetInit className hdrLen unpack buf ≠ .error .structError := by
  cases hdrLen with
  | some needed => exact packetInit_ne_structError
  | none =>
      intro raised
      unfold packetInit at raised
      split at raised
      · cases raised
      · rename_i notStruct
        exact notStruct raised

theorem packetInit_noHeader {className : String}
    {unpack : Bytes → Except PyError α} {buf : Bytes}
    (raised : unpack buf = .error .structError) :
    packetInit className none unpack buf = .error .attributeError := by
  unfold packetInit
  rw [raised]

/-- A class with a header turns `struct.error` into errors of the library. -/
theorem packetInit_checks {className : String} {hdrLen : Nat}
    {unpack : Bytes → Except PyError α} {buf : Bytes}
    (checks : Checks HeaderError Bad view shown (unpack buf)) :
    Checks PyError.IsUnpackError Bad view shown
      (packetInit className (some hdrLen) unpack buf) where
  refused := by
    intro bad
    exact packetInit_escapes.mpr (checks.refused bad)
  stopped := by
    intro fine stop
    obtain ⟨problem, raised, allowed⟩ := checks.stopped fine stop
    have raises : RaisesOnly HeaderError (unpack buf) := by
      rw [raised]
      exact raisesOnly_error.mpr allowed
    have library : RaisesOnly PyError.IsUnpackError
        (packetInit className (some hdrLen) unpack buf) :=
      packetInit_raisesOnly raises
    cases result : packetInit className (some hdrLen) unpack buf with
    | error other => exact ⟨other, rfl, library other result⟩
    | ok value =>
        rw [packetInit_eq_ok.mp result] at raised
        cases raised
  passed := by
    intro fine seen passedOn
    obtain ⟨value, returned, viewed⟩ := checks.passed fine seen passedOn
    exact ⟨value, packetInit_eq_ok.mpr returned, viewed⟩

/-- In a class without one it is not an error of the library. -/
theorem packetInit_noHeader_checks {className : String}
    {unpack : Bytes → Except PyError α} {buf : Bytes}
    (checks : Checks PyError.IsUnpackError Bad view shown (unpack buf)) :
    Checks PyError.IsUnpackError Bad view shown
      (packetInit className none unpack buf) where
  refused := by
    intro bad
    obtain ⟨problem, raised, refused⟩ := checks.refused bad
    by_cases struct : problem = .structError
    · rw [struct] at raised
      exact ⟨.attributeError, packetInit_noHeader raised, fun library => library⟩
    · exact ⟨problem, packetInit_passes raised struct, refused⟩
  stopped := by
    intro fine stop
    obtain ⟨problem, raised, allowed⟩ := checks.stopped fine stop
    refine ⟨problem, packetInit_passes raised ?_, allowed⟩
    intro struct
    rw [struct] at allowed
    exact allowed
  passed := by
    intro fine seen passedOn
    obtain ⟨value, returned, viewed⟩ := checks.passed fine seen passedOn
    exact ⟨value, packetInit_eq_ok.mpr returned, viewed⟩

/-- What is never `struct.error` is examined the same inside a class with a
header. -/
theorem checks_header {result : Except PyError α}
    (notStruct : result ≠ .error .structError)
    (checks : Checks PyError.IsUnpackError Bad view shown result) :
    Checks HeaderError Bad view shown result where
  refused := by
    intro bad
    obtain ⟨problem, raised, refused⟩ := checks.refused bad
    refine ⟨problem, raised, ?_⟩
    rintro (struct | library)
    · rw [struct] at raised
      exact notStruct raised
    · exact refused library
  stopped := by
    intro fine stop
    obtain ⟨problem, raised, allowed⟩ := checks.stopped fine stop
    exact ⟨problem, raised, Or.inr allowed⟩
  passed := checks.passed

theorem takeHeader_checks {hdrLen : Nat} {buf : Bytes}
    {next : Bytes × Bytes → Except PyError α}
    (behind : hdrLen ≤ buf.length → Checks HeaderError Bad view shown
      (next (buf.take hdrLen, buf.drop hdrLen))) :
    Checks HeaderError Bad view
      ((Shown.require (hdrLen ≤ buf.length)).andThen fun _ => shown)
      (takeHeader hdrLen buf >>= next) := by
  unfold takeHeader
  apply Checks.require
  · intro enough
    rw [if_neg (by omega)]
    exact behind enough
  · intro short
    rw [if_pos (by omega)]
    exact ⟨_, rfl, Or.inl rfl⟩

theorem unpackBe_checks {width : Nat} {bytes : Bytes} {enough : Prop}
    [Decidable enough] {next : Nat → Except PyError α}
    (exact_length : bytes.length = width ↔ enough)
    (behind : enough →
      Checks HeaderError Bad view shown (next (beNat bytes))) :
    Checks HeaderError Bad view
      ((Shown.require enough).andThen fun _ => shown)
      (unpackBe width bytes >>= next) := by
  unfold unpackBe
  apply Checks.require
  · intro holds
    rw [if_pos (exact_length.mpr holds)]
    exact behind holds
  · intro fails
    rw [if_neg fun same => fails (exact_length.mp same)]
    exact ⟨_, rfl, Or.inl rfl⟩

/-- An integer that is read outside a class with a header: it is bad if its
bytes are not there. -/
theorem unpackBe_wanted {width : Nat} {bytes : Bytes} {text : Text}
    (bad : Bad text ↔ bytes.length < width) :
    Checks PyError.IsUnpackError Bad id
      ⟨[text], some (beNat (bytes.take width))⟩
      (unpackBe width (bytes.take width)) := by
  apply Checks.one
  · intro isBad
    have short := bad.mp isBad
    have cutOff : unpackBe width (bytes.take width) = .error .structError := by
      apply if_neg
      rw [List.length_take]
      omega
    rw [cutOff]
    exact ⟨.structError, rfl, fun library => library⟩
  · intro fine
    have enough : ¬bytes.length < width := fun short => fine (bad.mpr short)
    have whole : unpackBe width (bytes.take width) =
        .ok (beNat (bytes.take width)) := by
      apply if_pos
      rw [List.length_take]
      omega
    exact ⟨_, whole, rfl⟩

/-- The items of a loop that goes on until no data is left; passed on is how
much they take. -/
def itemsShown (shown : Bytes → Shown Text Nat) : Bytes → Shown Text Nat
  | [] => .pass 0
  | byte :: rest =>
      (shown (byte :: rest)).andThen fun size =>
        if 0 < size then
          (itemsShown shown ((byte :: rest).drop size)).andThen fun others =>
            .pass (size + others)
        else .stop
termination_by data => data.length
decreasing_by
  simp only [List.length_drop, List.length_cons]
  omega

/-- The items of a loop with a count of bytes, and the data behind them. -/
def countedShown (shown : Bytes → Shown Text Nat) (count : Int)
    (data : Bytes) : Shown Text Bytes :=
  if count > 0 then
    (shown data).andThen fun size =>
      if 0 < size then countedShown shown (count - size) (data.drop size)
      else .stop
  else .pass data
termination_by count.toNat
decreasing_by omega

section Loops

variable {parse : Bytes → Except PyError α} {size : α → Nat}
  {positive : ∀ item, 0 < size item} {Allowed : PyError → Prop}
  {itemShown : Bytes → Shown Text Nat}

theorem parseAll_checks
    (each : ∀ data, Checks Allowed Bad size (itemShown data) (parse data))
    (data : Bytes) :
    Checks Allowed Bad (fun items => (items.map size).sum)
      (itemsShown itemShown data) (parseAll parse size positive data) := by
  induction length : data.length using Nat.strong_induction_on
    generalizing data with
  | h length' ih =>
      cases data with
      | nil =>
          rw [itemsShown, parseAll]
          exact Checks.ok rfl
      | cons byte rest =>
          rw [itemsShown, parseAll]
          refine (each (byte :: rest)).bind fun item _read => ?_
          have bound := positive item
          rw [if_pos bound]
          have shorter := ih ((byte :: rest).drop (size item)).length
            (by
              rw [List.length_drop]
              rw [List.length_cons] at length ⊢
              omega) _ rfl
          exact shorter.bind fun items _walked => Checks.ok rfl

theorem parseCounted_checks
    (each : ∀ data, Checks Allowed Bad size (itemShown data) (parse data))
    (count : Int) (data : Bytes) :
    Checks Allowed Bad (fun result => result.2)
      (countedShown itemShown count data)
      (parseCounted parse size positive count data) := by
  induction bound : count.toNat using Nat.strong_induction_on
    generalizing count data with
  | h bound' ih =>
      rw [countedShown, parseCounted]
      by_cases more : count > 0
      · rw [if_pos more, if_pos more]
        refine (each data).bind fun item _read => ?_
        have sized := positive item
        rw [if_pos sized]
        have smaller := ih (count - size item).toNat (by omega)
          (count - size item) (data.drop (size item)) rfl
        exact smaller.map fun _result => rfl
      · rw [if_neg more, if_neg more]
        exact Checks.ok rfl

theorem parseCounted_raisesOnly
    (each : ∀ data, RaisesOnly Allowed (parse data)) (count : Int)
    (data : Bytes) :
    RaisesOnly Allowed (parseCounted parse size positive count data) := by
  fun_induction parseCounted parse size positive count data with
  | case1 count data more ih =>
      apply (each data).bind
      intro item _read
      apply (ih item).bind
      intro result _walked
      exact raisesOnly_ok _
  | case2 count data done => exact raisesOnly_ok _

end Loops

end DpktNg
