/-
The decoders of `binascii` that `base64` and `quopri` call: as they are without
`strict_mode`, and outside headers.
-/

import DpktNg.Python.Bytes
import DpktNg.Python.Str

namespace DpktNg

/-- The six bits of a character, unless it is not of the alphabet. -/
def base64Value (ch : UInt8) : Option Nat :=
  if 0x41 ≤ ch ∧ ch ≤ 0x5a then some (ch.toNat - 0x41)
  else if 0x61 ≤ ch ∧ ch ≤ 0x7a then some (ch.toNat - 0x61 + 26)
  else if 0x30 ≤ ch ∧ ch ≤ 0x39 then some (ch.toNat - 0x30 + 52)
  else if ch = 0x2b then some 62
  else if ch = 0x2f then some 63
  else none

/-- The loop, from a position in the quad, the bits that are left of the last
character and the pads so far.  A pad that completes the quad ends it; at the end
of the data an open quad is an error. -/
def a2bBase64From (quadPos left pads : Nat) : Bytes → Option Bytes
  | [] => if quadPos = 0 then some [] else none
  | ch :: rest =>
      if ch = 0x3d then
        if quadPos ≥ 2 then
          if quadPos + (pads + 1) ≥ 4 then some []
          else a2bBase64From quadPos left (pads + 1) rest
        else a2bBase64From quadPos left pads rest
      else
        match base64Value ch with
        | none => a2bBase64From quadPos left pads rest
        | some value =>
            match quadPos with
            | 0 => a2bBase64From 1 value 0 rest
            | 1 =>
                (a2bBase64From 2 (value &&& 0x0f) 0 rest).map
                  (UInt8.ofNat (left <<< 2 ||| value >>> 4) :: ·)
            | 2 =>
                (a2bBase64From 3 (value &&& 0x03) 0 rest).map
                  (UInt8.ofNat (left <<< 4 ||| value >>> 2) :: ·)
            | _ =>
                (a2bBase64From 0 0 0 rest).map
                  (UInt8.ofNat (left <<< 6 ||| value) :: ·)

/-- `base64.b64decode`, `none` where it raises `binascii.Error` -/
def b64decode (data : Bytes) : Option Bytes := a2bBase64From 0 0 0 data

/-- What the characters of an open quad leave over, in quarters of a byte. -/
def quarters : Nat → Nat
  | 0 => 0
  | 1 => 3
  | 2 => 2
  | _ => 1

theorem put_quarters {byte : UInt8} {decoded : Option Bytes} {bound : Nat}
    {out : Bytes}
    (within : ∀ {rest}, decoded = some rest → 4 * rest.length ≤ bound)
    (same : decoded.map (byte :: ·) = some out) : 4 * out.length ≤ bound + 4 := by
  obtain ⟨rest, here, rfl⟩ := Option.map_eq_some_iff.mp same
  have shorter := within here
  rw [List.length_cons]
  omega

theorem a2bBase64From_length {quadPos left pads : Nat} {data out : Bytes}
    (decoded : a2bBase64From quadPos left pads data = some out) :
    4 * out.length ≤ 3 * data.length + quarters quadPos := by
  fun_induction a2bBase64From quadPos left pads data generalizing out with
  | case1 left pads =>
      cases decoded
      exact Nat.zero_le _
  | case2 quadPos left pads openQuad => cases decoded
  | case3 quadPos left pads rest late full =>
      cases decoded
      exact Nat.zero_le _
  | case4 quadPos left pads rest late more ih =>
      have shorter := ih decoded
      rw [List.length_cons]
      omega
  | case5 quadPos left pads rest early ih =>
      have shorter := ih decoded
      rw [List.length_cons]
      omega
  | case6 quadPos left pads ch rest notPad foreign ih =>
      have shorter := ih decoded
      rw [List.length_cons]
      omega
  | case7 left pads ch rest notPad value known ih => exact ih decoded
  | case8 left pads ch rest notPad value known ih =>
      exact put_quarters ih decoded
  | case9 left pads ch rest notPad value known ih =>
      exact put_quarters ih decoded
  | case10 quadPos left pads ch rest notPad value known notZero notOne notTwo
      ih =>
      have last : quarters quadPos = 1 := by
        unfold quarters
        split
        · exact absurd rfl notZero
        · exact absurd rfl notOne
        · exact absurd rfl notTwo
        · rfl
      rw [last]
      exact put_quarters ih decoded

theorem b64decode_length {data out : Bytes} (decoded : b64decode data = some out) :
    4 * out.length ≤ 3 * data.length :=
  a2bBase64From_length decoded

def isHexDigit (ch : UInt8) : Bool :=
  (0x41 ≤ ch ∧ ch ≤ 0x46) ∨ (0x61 ≤ ch ∧ ch ≤ 0x66) ∨ (0x30 ≤ ch ∧ ch ≤ 0x39)

def hexDigitValue (ch : UInt8) : Nat :=
  if ch ≤ 0x39 then ch.toNat - 0x30
  else if ch ≤ 0x46 then ch.toNat - 0x41 + 10
  else ch.toNat - 0x61 + 10

/-- What stands behind the next line feed. -/
def pastLineFeed (data : Bytes) : Bytes :=
  (data.dropWhile fun ch => ch ≠ 0x0a).drop 1

theorem pastLineFeed_length (data : Bytes) :
    (pastLineFeed data).length ≤ data.length := by
  have dropped := List.length_dropWhile_le (fun ch => decide (ch ≠ 0x0a)) data
  unfold pastLineFeed
  rw [List.length_drop]
  omega

/-- `quopri.decode`: an `=` that begins no line end, no other `=` and no two hex
digits stays. -/
def a2bQp : Bytes → Bytes
  | [] => []
  | byte :: rest =>
      if byte ≠ 0x3d then byte :: a2bQp rest
      else
        match rest with
        | [] => []
        | next :: behind =>
            if next = 0x0a then a2bQp behind
            else if next = 0x0d then a2bQp (pastLineFeed behind)
            else if next = 0x3d then 0x3d :: a2bQp behind
            else
              match behind with
              | [] => 0x3d :: a2bQp [next]
              | low :: others =>
                  if isHexDigit next ∧ isHexDigit low then
                    UInt8.ofNat (hexDigitValue next <<< 4 ||| hexDigitValue low)
                      :: a2bQp others
                  else 0x3d :: a2bQp (next :: low :: others)
termination_by data => data.length
decreasing_by
  all_goals simp only [List.length_cons, List.length_nil]
  all_goals first
    | omega
    | exact Nat.lt_add_right 1 (Nat.lt_succ_of_le (pastLineFeed_length behind))

theorem a2bQp_length (data : Bytes) : (a2bQp data).length ≤ data.length := by
  fun_induction a2bQp data with
  | case1 => exact le_rfl
  | case2 byte rest plain ih => exact Nat.succ_le_succ ih
  | case3 byte equals => exact Nat.zero_le _
  | case4 byte equals behind ih =>
      rw [List.length_cons, List.length_cons]
      omega
  | case5 byte equals behind notLineFeed ih =>
      have past := pastLineFeed_length behind
      rw [List.length_cons, List.length_cons]
      omega
  | case6 byte equals behind notLineFeed notLineEnd ih =>
      rw [List.length_cons, List.length_cons, List.length_cons]
      omega
  | case7 byte equals next notLineFeed notLineEnd other ih =>
      exact Nat.succ_le_succ ih
  | case8 byte equals next notLineFeed notLineEnd other low others digits ih =>
      rw [List.length_cons, List.length_cons, List.length_cons,
        List.length_cons]
      omega
  | case9 byte equals next notLineFeed notLineEnd other low others digits ih =>
      exact Nat.succ_le_succ ih

/-- What stands behind an `=` makes an escape of it. -/
def isEscape : Bytes → Bool
  | [] => true
  | next :: behind =>
      next = 0x0a ∨ next = 0x0d ∨ next = 0x3d ∨
        (isHexDigit next ∧ behind.head?.any isHexDigit)

/-- No escape stands in the data. -/
def QpPlain (data : Bytes) : Prop :=
  ∀ rest, 0x3d :: rest <:+ data → isEscape rest = false

theorem qpPlain_cons {byte : UInt8} {rest : Bytes} :
    QpPlain (byte :: rest) ↔
      (byte = 0x3d → isEscape rest = false) ∧ QpPlain rest := by
  constructor
  · intro plain
    constructor
    · rintro rfl
      exact plain rest List.suffix_rfl
    · exact fun behind within =>
        plain behind (within.trans (List.suffix_cons byte rest))
  · rintro ⟨here, later⟩ behind within
    rcases List.suffix_cons_iff.mp within with same | shorter
    · obtain ⟨rfl, rfl⟩ := List.cons.inj same
      exact here rfl
    · exact later behind shorter

/-- An escape makes the data shorter for good. -/
theorem escape_shortens {decoded rest : Bytes} (escape : isEscape rest = true)
    (shorter : decoded.length ≤ rest.length) :
    decoded = 0x3d :: rest ↔ QpPlain (0x3d :: rest) := by
  constructor
  · rintro rfl
    exact absurd shorter (Nat.not_succ_le_self rest.length)
  · intro plain
    rw [plain rest List.suffix_rfl] at escape
    cases escape

theorem plain_kept {decoded rest : Bytes} {byte : UInt8}
    (here : byte = 0x3d → isEscape rest = false)
    (later : decoded = rest ↔ QpPlain rest) :
    byte :: decoded = byte :: rest ↔ QpPlain (byte :: rest) := by
  rw [List.cons_inj_right, qpPlain_cons, later]
  exact ⟨fun plain => ⟨here, plain⟩, And.right⟩

/-- Data are left as they are exactly where no escape stands in them. -/
theorem a2bQp_eq_self_iff {data : Bytes} : a2bQp data = data ↔ QpPlain data := by
  fun_induction a2bQp data with
  | case1 =>
      exact iff_of_true rfl fun rest within => nomatch List.suffix_nil.mp within
  | case2 byte rest plain ih =>
      exact plain_kept (fun same => absurd same plain) ih
  | case3 byte equals =>
      cases not_not.mp equals
      exact escape_shortens rfl le_rfl
  | case4 byte equals behind ih =>
      cases not_not.mp equals
      exact escape_shortens rfl (Nat.le_succ_of_le (a2bQp_length behind))
  | case5 byte equals behind notLineFeed ih =>
      cases not_not.mp equals
      have past := pastLineFeed_length behind
      exact escape_shortens rfl
        (Nat.le_succ_of_le ((a2bQp_length _).trans past))
  | case6 byte equals behind notLineFeed notLineEnd ih =>
      cases not_not.mp equals
      exact escape_shortens rfl (Nat.succ_le_succ (a2bQp_length behind))
  | case7 byte equals next notLineFeed notLineEnd other ih =>
      cases not_not.mp equals
      have plain : isEscape [next] = false := by
        simp [isEscape, notLineFeed, notLineEnd, other]
      exact plain_kept (fun _ => plain) ih
  | case8 byte equals next notLineFeed notLineEnd other low others digits ih =>
      cases not_not.mp equals
      have escape : isEscape (next :: low :: others) = true := by
        simp [isEscape, digits]
      exact escape_shortens escape (Nat.succ_le_succ
        (Nat.le_succ_of_le (a2bQp_length others)))
  | case9 byte equals next notLineFeed notLineEnd other low others digits ih =>
      cases not_not.mp equals
      have plain : isEscape (next :: low :: others) = false := by
        simpa [isEscape, notLineFeed, notLineEnd, other] using digits
      exact plain_kept (fun _ => plain) ih

end DpktNg
