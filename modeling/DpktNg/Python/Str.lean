/-
Text values.  A Python `str` is the list of its characters; Python compares
two of them by code point, which is the lexicographic order of the lists.
-/

import DpktNg.Python.Bytes

namespace DpktNg

abbrev PyStr := List Char

/-- `'%d' % n` for a natural number. -/
def decimal (n : Nat) : PyStr := Nat.toDigits 10 n

theorem decimal_injective : Function.Injective decimal := by
  intro m n same
  have read := congrArg (Nat.ofDigitChars 10 · 0) same
  simpa only [decimal, Nat.ofDigitChars_ten_toDigits] using read

theorem dot_not_mem_decimal (n : Nat) : '.' ∉ decimal n := by
  intro member
  have digit := Nat.isDigit_of_mem_toDigits (by decide) (by decide) member
  revert digit
  decide

def asciiBytes (text : String) : Bytes :=
  text.toList.map fun c => UInt8.ofNat c.toNat

def decodeLatin1 (bytes : Bytes) : PyStr :=
  bytes.map fun byte => Char.ofNat byte.toNat

def encodeUtf8 (text : PyStr) : Bytes := text.flatMap String.utf8EncodeChar

/-- `bytes.decode('utf-8')`, `none` where it raises. -/
def decodeUtf8 (bytes : Bytes) : Option PyStr :=
  bytes.toByteArray.utf8Decode?.map Array.toList

theorem decodeUtf8_encodeUtf8 (text : PyStr) :
    decodeUtf8 (encodeUtf8 text) = some text := by
  unfold decodeUtf8 encodeUtf8
  change (List.utf8Encode text).utf8Decode?.map Array.toList = some text
  rw [List.utf8Decode?_utf8Encode]
  rfl

theorem encodeUtf8_decodeUtf8 {bytes : Bytes} {text : PyStr}
    (decoded : decodeUtf8 bytes = some text) : encodeUtf8 text = bytes := by
  obtain ⟨chars, found, same⟩ := Option.map_eq_some_iff.mp decoded
  have present : bytes.toByteArray.utf8Decode?.isSome := by rw [found]; rfl
  have again := @ByteArray.utf8Encode_get_utf8Decode? bytes.toByteArray present
  have value : bytes.toByteArray.utf8Decode?.get present = chars := by
    simp only [found, Option.get_some]
  rw [value, same] at again
  have bytesSame : (encodeUtf8 text).toByteArray = bytes.toByteArray := again
  exact List.toByteArray_inj.mp bytesSame

def hexDigit (n : Nat) : Char := Nat.digitChar n

/-- `'%02x' % n` for a byte value. -/
def hex2 (n : Nat) : PyStr := [hexDigit (n / 16), hexDigit (n % 16)]

def reprByte (quote : Char) (byte : UInt8) : PyStr :=
  if byte = 0x09 then ['\\', 't']
  else if byte = 0x0a then ['\\', 'n']
  else if byte = 0x0d then ['\\', 'r']
  else
    let c := Char.ofNat byte.toNat
    if c = quote ∨ c = '\\' then ['\\', c]
    else if 0x20 ≤ byte ∧ byte < 0x7f then [c]
    else '\\' :: 'x' :: hex2 byte.toNat

/-- `repr` of a byte string: quoted with `'` unless it holds one and no `"`. -/
def reprBytes (bytes : Bytes) : PyStr :=
  let quote := if 0x27 ∈ bytes ∧ 0x22 ∉ bytes then '"' else '\''
  'b' :: quote :: (bytes.flatMap (reprByte quote) ++ [quote])

/-- A packed IPv4 address, four octets. -/
structure InAddr where
  a : UInt8
  b : UInt8
  c : UInt8
  d : UInt8
deriving DecidableEq, Repr

def inetNtoa (addr : InAddr) : PyStr :=
  decimal addr.a.toNat ++ '.' :: (decimal addr.b.toNat ++
    '.' :: (decimal addr.c.toNat ++ '.' :: decimal addr.d.toNat))

/-- A separator that occurs in neither part splits a string in one way. -/
theorem split_at_separator {α : Type} {sep : α} {xs ys xs' ys' : List α}
    (absent : sep ∉ xs) (absent' : sep ∉ xs')
    (same : xs ++ sep :: ys = xs' ++ sep :: ys') : xs = xs' ∧ ys = ys' := by
  induction xs generalizing xs' with
  | nil =>
      cases xs' with
      | nil => exact ⟨rfl, (List.cons.inj same).2⟩
      | cons x rest =>
          have head := (List.cons.inj same).1
          exact absurd (List.mem_cons.mpr (Or.inl head)) absent'
  | cons x rest ih =>
      cases xs' with
      | nil =>
          have head := (List.cons.inj same).1
          exact absurd (List.mem_cons.mpr (Or.inl head.symm)) absent
      | cons x' rest' =>
          obtain ⟨head, tail⟩ := List.cons.inj same
          have parts := ih
            (fun member => absent (List.mem_cons_of_mem x member))
            (fun member => absent' (List.mem_cons_of_mem x' member)) tail
          exact ⟨by rw [head, parts.1], parts.2⟩

theorem inetNtoa_injective : Function.Injective inetNtoa := by
  intro first second same
  obtain ⟨sameA, rest⟩ := split_at_separator (dot_not_mem_decimal _)
    (dot_not_mem_decimal _) same
  obtain ⟨sameB, rest⟩ := split_at_separator (dot_not_mem_decimal _)
    (dot_not_mem_decimal _) rest
  obtain ⟨sameC, sameD⟩ := split_at_separator (dot_not_mem_decimal _)
    (dot_not_mem_decimal _) rest
  have octet : ∀ {x y : UInt8}, decimal x.toNat = decimal y.toNat → x = y :=
    fun equal => UInt8.toNat_inj.mp (decimal_injective equal)
  cases first
  cases second
  rw [InAddr.mk.injEq]
  exact ⟨octet sameA, octet sameB, octet sameC, octet sameD⟩

example : inetNtoa ⟨10, 0, 0, 255⟩ = "10.0.0.255".toList := by decide

end DpktNg
