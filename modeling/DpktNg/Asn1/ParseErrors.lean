/-
Which errors `decode` raises.  Lengths and integers are read without asking
whether their octets are there, and the digits of a time without asking whether
they are digits; which of these a buffer comes to follows from its layout.
-/

import DpktNg.Asn1.Decode
import DpktNg.Python.LoopChecks

namespace DpktNg.Asn1

open Library

/-- The places of a buffer that can raise an error not of the library: octets
that are read from what is left, and the text of a time. -/
inductive Examined where
  | octets (needed : Nat) (left : Bytes)
  | time (text : Bytes)

/-- The numbers of a time: year, month, day, hour, minute and second. -/
def timeField (text : Bytes) (index : Nat) : Option Int :=
  parseInt 10 (decodeLatin1 (cut text (2 * index) (2 * index + 2)))

def IsMonth : Option Int → Prop
  | none => False
  | some month => 1 ≤ month ∧ month ≤ 12

instance : DecidablePred IsMonth
  | none => .isFalse id
  | some month => inferInstanceAs (Decidable (1 ≤ month ∧ month ≤ 12))

/-- Six numbers, of which the second is a month, and something behind them. -/
def IsTime (text : Bytes) : Prop :=
  (∀ index < 6, (timeField text index).isSome) ∧
    IsMonth (timeField text 1) ∧ 12 < text.length

instance : DecidablePred IsTime := fun _text =>
  inferInstanceAs (Decidable (_ ∧ _ ∧ _))

/-- Octets that are missing, and what is no time. -/
def Examined.Bad : Examined → Prop
  | .octets needed left => left.length < needed
  | .time text => ¬IsTime text

abbrev Seen (β : Type) := Shown Examined β

def octetsShown (needed : Nat) (left : Bytes) : Seen Nat :=
  ⟨[.octets needed left], some (beNat (left.take needed))⟩

/-- The length and the further length octets, behind the first one. -/
def lengthShown (isConstructed : Bool) (rest : Bytes) (l : Nat) :
    Seen (Nat × Nat) :=
  if isConstructed ∧ l = 128 then .pass (l, 0)
  else if l ≥ 128 then
    let c := l &&& 127
    if c = 1 then
      (octetsShown 1 (rest.drop 1)).andThen fun l => .pass (l, c)
    else if c = 2 then
      (octetsShown 2 (rest.drop 1)).andThen fun l => .pass (l, c)
    else if c = 3 then
      (octetsShown 4 rest).andThen fun l => .pass (l &&& 0xfff, 2)
    else if c = 4 then
      (octetsShown 4 (rest.drop 1)).andThen fun l => .pass (l, c)
    else .stop
  else .pass (l, 0)

/-- Three octets of content are read as four. -/
def integerShown (content : Bytes) (l : Nat) : Seen Unit :=
  if l = 0 then .pass ()
  else if l ≤ 4 then
    (octetsShown (if l = 3 then 4 else l) content).andThen fun _ => .pass ()
  else .stop

def primitiveShown (t : UInt8) (content : Bytes) (l : Nat) : Seen Unit :=
  if t &&& tagmask = integer then integerShown content l
  else if t &&& tagmask = utcTime then ⟨[.time (content.take l)], some ()⟩
  else .pass ()

/-- The elements of a buffer: the content of a constructed one is everything
behind its header. -/
def decodeShown : Bytes → Seen Unit
  | [] => .pass ()
  | t :: rest =>
      let isConstructed : Bool := t &&& constructed ≠ 0
      (octetsShown 1 rest).andThen fun first =>
        (if isConstructed ∧ first = 128 then decodeShown (rest.drop 1)
          else .pass ()).andThen fun _ =>
        (lengthShown isConstructed rest first).andThen fun length =>
          let content := rest.drop (1 + length.2)
          (if isConstructed then decodeShown content
            else primitiveShown t content length.1).andThen fun _ =>
              decodeShown (content.drop length.1)
termination_by buf => buf.length
decreasing_by
  all_goals
    simp only [List.length_drop, List.length_cons]
    omega

theorem compatOrd_checks (left : Bytes) :
    Checks PyError.IsUnpackError Examined.Bad id (octetsShown 1 left)
      (compatOrd left 0) := by
  apply Checks.one
  · intro short
    change left.length < 1 at short
    have empty : left = [] := List.eq_nil_of_length_eq_zero (by omega)
    rw [empty]
    exact ⟨.indexError, rfl, fun library => library⟩
  · intro enough
    cases left with
    | nil => exact absurd Nat.one_pos enough
    | cons octet behind =>
        exact ⟨octet.toNat, rfl, (beNat_singleton octet).symm⟩

theorem octets_checks (needed : Nat) (left : Bytes) :
    Checks PyError.IsUnpackError Examined.Bad id (octetsShown needed left)
      (unpackBe needed (left.take needed)) :=
  unpackBe_wanted Iff.rfl

theorem readLength_checks (t : UInt8) (isConstructed : Bool) (rest : Bytes)
    (l : Nat) :
    Checks PyError.IsUnpackError Examined.Bad id
      (lengthShown isConstructed rest l)
      (readLength (t :: rest) isConstructed l) := by
  unfold lengthShown readLength
  refine Checks.branch (fun _indefinite => Checks.ok rfl) fun _definite => ?_
  refine Checks.branch (fun _long => ?_) fun _short => Checks.ok rfl
  refine Checks.branch (fun _one => ?_) fun _more => ?_
  · have octet : compatOrd (t :: rest) 2 = compatOrd (rest.drop 1) 0 := by
      cases rest with
      | nil => rfl
      | cons first behind => cases behind <;> rfl
    rw [octet]
    exact (compatOrd_checks _).bind fun _value _read => Checks.ok rfl
  refine Checks.branch (fun _two => ?_) fun _more => ?_
  · exact (octets_checks 2 _).bind fun _value _read => Checks.ok rfl
  refine Checks.branch (fun _three => ?_) fun _more => ?_
  · exact (octets_checks 4 _).bind fun _value _read => Checks.ok rfl
  refine Checks.branch (fun _four => ?_) fun _more => ?_
  · exact (octets_checks 4 _).bind fun _value _read => Checks.ok rfl
  · exact Checks.error trivial

theorem readInteger_checks (content : Bytes) (l : Nat) :
    Checks PyError.IsUnpackError Examined.Bad (fun _n => ())
      (integerShown content l) (readInteger content l) := by
  unfold integerShown readInteger
  refine Checks.branch (fun _empty => Checks.ok rfl) fun notEmpty => ?_
  by_cases small : l ≤ 4
  · rw [if_pos small]
    obtain one | two | three | four : l = 1 ∨ l = 2 ∨ l = 3 ∨ l = 4 := by
      omega
    · rw [one]
      exact (compatOrd_checks content).void
    · rw [two]
      exact (octets_checks 2 content).void
    · rw [three]
      exact (octets_checks 4 content).bind fun _value _read => Checks.ok rfl
    · rw [four]
      exact (octets_checks 4 content).void
  · rw [if_neg small, if_neg (by omega), if_neg (by omega), if_neg (by omega),
      if_neg (by omega)]
    exact Checks.error trivial

theorem ordinal_eq_ok {year month days : Int}
    (found : ordinal year month = .ok days) : 1 ≤ month ∧ month ≤ 12 := by
  unfold ordinal at found
  split at found
  · cases found
  · split at found
    · cases found
    · omega

theorem ordinal_ok {year month : Int} (inRange : 1 ≤ year ∧ year ≤ 9999)
    (isMonth : 1 ≤ month ∧ month ≤ 12) :
    ∃ days, ordinal year month = .ok days := by
  unfold ordinal
  rw [if_neg (by omega), if_neg (by omega)]
  exact ⟨_, rfl⟩

theorem intOfBytes_eq_ok {bytes : Bytes} {n : Int} :
    intOfBytes bytes = .ok n ↔ parseInt 10 (decodeLatin1 bytes) = some n := by
  unfold intOfBytes
  split
  · rename_i value parsed
    rw [parsed, Except.ok.injEq, Option.some.injEq]
  · rename_i unparsed
    rw [unparsed]
    exact iff_of_false (fun same => by cases same) (fun same => by cases same)

/-- Two octets give a year of two digits, or a negative one of one digit. -/
theorem timeField_bounds {text : Bytes} {index : Nat} {n : Int}
    (field : timeField text index = some n) : -100 < n ∧ n < 100 := by
  have size : (decodeLatin1 (cut text (2 * index) (2 * index + 2))).length ≤
      2 := by
    unfold decodeLatin1 cut
    rw [List.length_map, List.length_take]
    omega
  have bound := parseInt_natAbs_lt (by decide) field
  have limit := bound.trans_le (Nat.pow_le_pow_right (by decide) size)
  omega

theorem isTime_of_utctime {text : Bytes} {seconds : Int}
    (read : utctime text = .ok seconds) : IsTime text := by
  unfold utctime at read
  obtain ⟨yy, year, read⟩ := bind_eq_ok.mp read
  obtain ⟨mn, month, read⟩ := bind_eq_ok.mp read
  obtain ⟨dd, day, read⟩ := bind_eq_ok.mp read
  obtain ⟨hh, hour, read⟩ := bind_eq_ok.mp read
  obtain ⟨mm, minute, read⟩ := bind_eq_ok.mp read
  obtain ⟨ss, second, read⟩ := bind_eq_ok.mp read
  obtain ⟨sign, behind, read⟩ := bind_eq_ok.mp read
  obtain ⟨days, date, _total⟩ := bind_eq_ok.mp read
  rw [intOfBytes_eq_ok] at year month day hour minute second
  refine ⟨?_, ?_, ?_⟩
  · intro index small
    interval_cases index
    · exact Option.isSome_of_eq_some year
    · exact Option.isSome_of_eq_some month
    · exact Option.isSome_of_eq_some day
    · exact Option.isSome_of_eq_some hour
    · exact Option.isSome_of_eq_some minute
    · exact Option.isSome_of_eq_some second
  · have second : timeField text 1 = some mn := month
    rw [second]
    exact ordinal_eq_ok date
  · by_contra short
    have nothing : text.drop 12 = [] := List.drop_eq_nil_iff.mpr (by omega)
    rw [nothing] at behind
    cases behind

theorem utctime_of_isTime {text : Bytes} (time : IsTime text) :
    ∃ seconds, utctime text = .ok seconds := by
  obtain ⟨numbers, isMonth, long⟩ := time
  have field : ∀ index < 6, ∃ n, timeField text index = some n :=
    fun index small => Option.isSome_iff_exists.mp (numbers index small)
  obtain ⟨yy, year⟩ := field 0 (by decide)
  obtain ⟨mn, month⟩ := field 1 (by decide)
  obtain ⟨dd, day⟩ := field 2 (by decide)
  obtain ⟨hh, hour⟩ := field 3 (by decide)
  obtain ⟨mm, minute⟩ := field 4 (by decide)
  obtain ⟨ss, second⟩ := field 5 (by decide)
  rw [month] at isMonth
  have inRange := timeField_bounds year
  obtain ⟨days, date⟩ := @ordinal_ok (2000 + yy) mn (by omega) isMonth
  have sign : ∃ octet, compatOrd (text.drop 12) 0 = .ok octet := by
    cases left : text.drop 12 with
    | nil => exact absurd (List.drop_eq_nil_iff.mp left) (by omega)
    | cons octet behind => exact ⟨_, rfl⟩
  obtain ⟨octet, there⟩ := sign
  unfold utctime
  rw [intOfBytes_eq_ok.mpr year, ok_bind, intOfBytes_eq_ok.mpr month, ok_bind,
    intOfBytes_eq_ok.mpr day, ok_bind, intOfBytes_eq_ok.mpr hour, ok_bind,
    intOfBytes_eq_ok.mpr minute, ok_bind, intOfBytes_eq_ok.mpr second, ok_bind,
    there, ok_bind]
  unfold timegm
  rw [date, ok_bind]
  exact ⟨_, rfl⟩

theorem intOfBytes_raisesOnly (bytes : Bytes) :
    RaisesOnly (fun problem => ¬problem.IsUnpackError) (intOfBytes bytes) := by
  unfold intOfBytes
  split
  · exact raisesOnly_ok _
  · exact raisesOnly_error.mpr fun library => library

theorem ordinal_raisesOnly (year month : Int) :
    RaisesOnly (fun problem => ¬problem.IsUnpackError) (ordinal year month) := by
  unfold ordinal
  split
  · exact raisesOnly_error.mpr fun library => library
  · split
    · exact raisesOnly_error.mpr fun library => library
    · exact raisesOnly_ok _

theorem compatOrd_raisesOnly (buf : Bytes) (index : Nat) :
    RaisesOnly (fun problem => ¬problem.IsUnpackError) (compatOrd buf index) := by
  unfold compatOrd byteAt
  split
  · exact raisesOnly_error.mpr fun library => library
  · exact raisesOnly_ok _

theorem utctime_raisesOnly (text : Bytes) :
    RaisesOnly (fun problem => ¬problem.IsUnpackError) (utctime text) := by
  unfold utctime
  refine (intOfBytes_raisesOnly _).bind fun yy _year => ?_
  refine (intOfBytes_raisesOnly _).bind fun mn _month => ?_
  refine (intOfBytes_raisesOnly _).bind fun dd _day => ?_
  refine (intOfBytes_raisesOnly _).bind fun hh _hour => ?_
  refine (intOfBytes_raisesOnly _).bind fun mm _minute => ?_
  refine (intOfBytes_raisesOnly _).bind fun ss _second => ?_
  refine (compatOrd_raisesOnly _ _).bind fun sign _behind => ?_
  exact (ordinal_raisesOnly _ _).bind fun days _date => raisesOnly_ok _

theorem utctime_checks (text : Bytes) :
    Checks PyError.IsUnpackError Examined.Bad (fun _seconds => ())
      ⟨[.time text], some ()⟩ (utctime text) := by
  apply Checks.one
  · intro bad
    cases read : utctime text with
    | error problem =>
        exact escapes_error.mpr (utctime_raisesOnly text problem read)
    | ok seconds => exact absurd (isTime_of_utctime read) bad
  · intro fine
    obtain ⟨seconds, read⟩ := utctime_of_isTime (not_not.mp fine)
    exact ⟨seconds, read, rfl⟩

theorem primitive_checks (t : UInt8) (content : Bytes) (l : Nat) :
    Checks PyError.IsUnpackError Examined.Bad (fun _element => ())
      (primitiveShown t content l) (primitive t content l) := by
  unfold primitiveShown primitive
  refine Checks.branch (fun _integer => ?_) fun _other => ?_
  · exact (readInteger_checks content l).map fun _n => rfl
  refine Checks.branch (fun _time => ?_) fun _other => ?_
  · exact (utctime_checks _).map fun _seconds => rfl
  · exact Checks.ok rfl

/-- What an indefinite length decodes once more. -/
theorem indefinite_checks (t : UInt8) (isConstructed : Bool) (first : Nat)
    {shown : Seen Unit} {content : Except PyError (List Element)}
    (nested : Checks PyError.IsUnpackError Examined.Bad (fun _msg => ())
      shown content) :
    Checks PyError.IsUnpackError Examined.Bad (fun _msg => ())
      (if isConstructed ∧ first = 128 then shown else .pass ())
      (if isConstructed ∧ first = 128 then do
          .ok [Element.children t (← content)]
        else .ok []) := by
  refine Checks.branch (fun _indefinite => ?_) fun _definite => Checks.ok rfl
  exact nested.map fun _msg => rfl

theorem element_checks (t : UInt8) (content : Bytes) (l : Nat)
    (nested : Checks PyError.IsUnpackError Examined.Bad (fun _msg => ())
      (decodeShown content) (decode content)) :
    Checks PyError.IsUnpackError Examined.Bad (fun _element => ())
      (if (decide (t &&& constructed ≠ 0) : Bool) then decodeShown content
        else primitiveShown t content l)
      (if (decide (t &&& constructed ≠ 0) : Bool) then do
          .ok (Element.children t (← decode content))
        else primitive t content l) := by
  refine Checks.branch (fun _constructed => ?_) fun _primitive => ?_
  · exact nested.map fun _msg => rfl
  · exact primitive_checks t content l

theorem decode_checks (buf : Bytes) :
    Checks PyError.IsUnpackError Examined.Bad (fun _msg => ())
      (decodeShown buf) (decode buf) := by
  -- every part that is decoded is shorter
  induction size : buf.length using Nat.strong_induction_on
    generalizing buf with
  | h bound ih =>
      cases buf with
      | nil =>
          rw [decodeShown, decode]
          exact Checks.ok rfl
      | cons t rest =>
          have shorter : ∀ count, Checks PyError.IsUnpackError Examined.Bad
              (fun _msg => ()) (decodeShown (rest.drop count))
              (decode (rest.drop count)) := by
            intro count
            rw [List.length_cons] at size
            refine ih _ ?_ _ rfl
            rw [List.length_drop]
            omega
          rw [decodeShown, decode]
          refine (compatOrd_checks rest).bind fun first _read => ?_
          refine (indefinite_checks t _ first (shorter 1)).bind
            fun indefinite _decoded => ?_
          refine (readLength_checks t _ rest first).bind
            fun length _lengthRead => ?_
          obtain ⟨l, c⟩ := length
          have skipped : (t :: rest).drop (2 + c) = rest.drop (1 + c) := by
            rw [show 2 + c = (1 + c) + 1 by omega, List.drop_succ_cons]
          dsimp only [id]
          rw [skipped]
          refine (element_checks t _ l (shorter (1 + c))).bind
            fun element _content => ?_
          rw [List.drop_drop]
          exact (shorter _).map fun _others => rfl

/-- Decoding ends in a list or an error of the library exactly when no octet is
missing where one is read, and every time is one. -/
theorem decode_raisesOnly_iff (buf : Bytes) :
    RaisesOnly PyError.IsUnpackError (decode buf) ↔
      ∀ place ∈ (decodeShown buf).texts, ¬place.Bad := by
  rw [← not_escapes_iff, (decode_checks buf).escapes_iff]
  push Not
  exact Iff.rfl

/-- An identifier octet alone. -/
theorem identifier_alone_escapes :
    ¬∀ buf, RaisesOnly PyError.IsUnpackError (decode buf) := by
  intro always
  have raised : decode [integer] = .error .indexError := by
    rw [decode]
    rfl
  exact always [integer] _ raised

end DpktNg.Asn1
