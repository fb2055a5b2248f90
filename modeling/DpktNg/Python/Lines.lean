/-
Lines of a byte stream that end in CR LF, and the methods of `bytes` that take
them apart.
-/

import DpktNg.Library.Feeding
import DpktNg.Python.Integer
import DpktNg.Python.Text

namespace DpktNg

open Library

def crlf : Bytes := [0x0d, 0x0a]

def isLineEnd (byte : UInt8) : Bool := byte = 0x0d ∨ byte = 0x0a

/-- `line.rstrip(b'\r\n')` -/
def rstripLine (line : Bytes) : Bytes := line.rdropWhile isLineEnd

/-- The first line of a buffer and what stands behind it, where
`b'\r\n' in buf`. -/
def takeLine (buf : Bytes) : Option (Bytes × Bytes) :=
  (findBytes crlf buf).map fun index =>
    (buf.take (index + 2), buf.drop (index + 2))

/-- `bytes.isdigit()` -/
def isDigits (bytes : Bytes) : Bool :=
  bytes ≠ [] ∧ bytes.all fun byte => 0x30 ≤ byte ∧ byte ≤ 0x39

/-- `int(bytes)` of digits -/
def intOfDigits (bytes : Bytes) : Nat := digitsValue 10 (decodeLatin1 bytes)

/-- `str(n).encode()` -/
def decimalBytes (n : Nat) : Bytes := (decimal n).map asciiByte

/-- `raw.replace(b'\r\n', b'\n')` -/
def replaceCrlf : Bytes → Bytes
  | [] => []
  | [byte] => [byte]
  | byte :: next :: rest =>
      if byte = 0x0d ∧ next = 0x0a then 0x0a :: replaceCrlf rest
      else byte :: replaceCrlf (next :: rest)

/-- `raw[:-1]` where `raw.endswith(b'\n')` -/
def dropLineFeed (raw : Bytes) : Bytes :=
  if raw.getLast? = some 0x0a then raw.dropLast else raw

/-- `raw.split(b'\n')` of text with CR LF as LF and none at the end -/
def textLines (raw : Bytes) : List Bytes :=
  (dropLineFeed (replaceCrlf raw)).splitOn 0x0a

def joinLines (lines : List Bytes) : Bytes := [0x0a].intercalate lines

/-- `bytes.split(sep, count)` -/
def splitUpTo (sep : UInt8) : Nat → Bytes → List Bytes
  | 0, bytes => [bytes]
  | count + 1, bytes =>
      if sep ∈ bytes then
        bytes.takeWhile (· ≠ sep) ::
          splitUpTo sep count (bytes.drop (bytes.idxOf sep + 1))
      else [bytes]

/-- The word in front of the first space of a line, in upper case, and what
stands behind that space.  A space at the front does not count. -/
def verbAndRest (raw : Bytes) : Bytes × Bytes :=
  let line := rstripLine raw
  match findBytes [0x20] line with
  | some space =>
      if space > 0 then (upper (line.take space), line.drop (space + 1))
      else (upper line, [])
  | none => (upper line, [])

/-- `len(line) >= 3 and line[:3].isdigit()` -/
def startsWithCode (line : Bytes) : Bool :=
  line.length ≥ 3 ∧ isDigits (line.take 3)

/-! ### The first occurrence -/

theorem findBytes_eq_some {needle buf : Bytes} {index : Nat} :
    findBytes needle buf = some index ↔
      needle <+: buf.drop index ∧ ∀ j < index, ¬needle <+: buf.drop j := by
  induction buf generalizing index with
  | nil =>
      unfold findBytes
      simp only [List.drop_nil, List.prefix_nil]
      by_cases empty : needle = []
      · rw [if_pos empty, Option.some.injEq]
        constructor
        · rintro rfl
          exact ⟨empty, fun j impossible => absurd impossible (by omega)⟩
        · rintro ⟨_here, first⟩
          by_contra other
          exact first 0 (by omega) empty
      · rw [if_neg empty]
        exact iff_of_false nofun (fun both => empty both.1)
  | cons byte rest ih =>
      unfold findBytes
      by_cases here : needle <+: byte :: rest
      · rw [if_pos (List.isPrefixOf_iff_prefix.mpr here), Option.some.injEq]
        constructor
        · rintro rfl
          exact ⟨here, fun j impossible => absurd impossible (by omega)⟩
        · rintro ⟨_found, first⟩
          by_contra other
          exact first 0 (by omega) here
      · rw [if_neg (fun found => here (List.isPrefixOf_iff_prefix.mp found)),
          Option.map_eq_some_iff]
        constructor
        · rintro ⟨before, found, rfl⟩
          obtain ⟨isPrefix, first⟩ := ih.mp found
          refine ⟨isPrefix, fun j earlier => ?_⟩
          cases j with
          | zero => exact here
          | succ j => exact first j (by omega)
        · rintro ⟨isPrefix, first⟩
          cases index with
          | zero => exact absurd isPrefix here
          | succ before =>
              refine ⟨before, ih.mpr ⟨isPrefix, fun j earlier => ?_⟩, rfl⟩
              exact first (j + 1) (by omega)

/-- What stands behind an occurrence has no say in where the first one is. -/
theorem findBytes_congr {needle buf buf' : Bytes} {index : Nat}
    (found : findBytes needle buf = some index)
    (same : buf.take (index + needle.length) =
      buf'.take (index + needle.length)) :
    findBytes needle buf' = some index := by
  have window : ∀ j ≤ index,
      (needle <+: buf.drop j ↔ needle <+: buf'.drop j) := by
    intro j upTo
    have cutSame : (buf.drop j).take needle.length =
        (buf'.drop j).take needle.length := by
      have moved := congrArg (fun xs => (xs.drop j).take needle.length) same
      simp only [List.drop_take, List.take_take] at moved
      rwa [min_eq_left (by omega)] at moved
    rw [List.prefix_iff_eq_take, List.prefix_iff_eq_take, cutSame]
  obtain ⟨isPrefix, first⟩ := findBytes_eq_some.mp found
  refine findBytes_eq_some.mpr ⟨(window index le_rfl).mp isPrefix, ?_⟩
  intro j earlier occurs
  exact first j earlier ((window j (by omega)).mpr occurs)

theorem findBytes_bound {needle buf : Bytes} {index : Nat}
    (found : findBytes needle buf = some index) :
    needle = [] ∨ index + needle.length ≤ buf.length := by
  have fits := (findBytes_eq_some.mp found).1.length_le
  rw [List.length_drop] at fits
  by_cases empty : needle = []
  · exact Or.inl empty
  · have positive := List.length_pos_iff.mpr empty
    exact Or.inr (by omega)

/-! ### Lines -/

/-- A line ends in CR LF, and has no other. -/
def IsLine (line : Bytes) : Prop := takeLine line = some (line, [])

theorem takeLine_shape {buf line rest : Bytes}
    (taken : takeLine buf = some (line, rest)) :
    ∃ index, findBytes crlf buf = some index ∧ index + 2 ≤ buf.length ∧
      line = buf.take (index + 2) ∧ rest = buf.drop (index + 2) := by
  obtain ⟨index, found, same⟩ := Option.map_eq_some_iff.mp taken
  rw [Prod.mk.injEq] at same
  have bound := (findBytes_bound found).resolve_left (List.cons_ne_nil _ _)
  exact ⟨index, found, bound, same.1.symm, same.2.symm⟩

theorem takeLine_shorter {buf line rest : Bytes}
    (taken : takeLine buf = some (line, rest)) : rest.length < buf.length := by
  obtain ⟨index, _found, bound, _line, rfl⟩ := takeLine_shape taken
  rw [List.length_drop]
  omega

theorem takeLine_more {buf line rest : Bytes}
    (taken : takeLine buf = some (line, rest)) (more : Bytes) :
    takeLine (buf ++ more) = some (line, rest ++ more) := by
  obtain ⟨index, found, bound, rfl, rfl⟩ := takeLine_shape taken
  have still : findBytes crlf (buf ++ more) = some index :=
    findBytes_congr found (List.take_append_of_le_length bound).symm
  unfold takeLine
  rw [still, Option.map_some, List.take_append_of_le_length bound,
    List.drop_append_of_le_length bound]

theorem IsLine.takeLine {line : Bytes} (isLine : IsLine line) (rest : Bytes) :
    takeLine (line ++ rest) = some (line, rest) := takeLine_more isLine rest

theorem isLine_of_free {text : Bytes} (free : 0x0d ∉ text) :
    IsLine (text ++ crlf) := by
  have found : findBytes crlf (text ++ crlf) = some text.length := by
    rw [findBytes_eq_some, List.drop_left]
    refine ⟨List.prefix_rfl, fun j earlier occurs => free ?_⟩
    obtain ⟨behind, same⟩ := occurs
    rw [List.drop_append_of_le_length (by omega)] at same
    have first := congrArg List.head? same
    rw [List.drop_eq_getElem_cons earlier] at first
    change some 0x0d = some text[j] at first
    rw [Option.some.injEq] at first
    rw [first]
    exact List.getElem_mem earlier
  unfold IsLine DpktNg.takeLine
  have length : (text ++ crlf).length = text.length + 2 := List.length_append
  rw [found, Option.map_some, ← length, List.take_length, List.drop_length]

theorem IsLine.cons {line : Bytes} (isLine : IsLine line) {byte : UInt8}
    (other : byte ≠ 0x0d) : IsLine (byte :: line) := by
  obtain ⟨index, found, bound, whole, _rest⟩ := takeLine_shape isLine
  have length : line.length = index + 2 := by
    have lengths := congrArg List.length whole
    rw [List.length_take] at lengths
    omega
  have behind : findBytes crlf (byte :: line) = some (index + 1) := by
    unfold findBytes
    rw [if_neg, found]
    · rfl
    · intro occurs
      obtain ⟨rest, same⟩ := List.isPrefixOf_iff_prefix.mp occurs
      exact other (List.cons_eq_cons.mp same).1.symm
  unfold IsLine DpktNg.takeLine
  have lengthCons : (byte :: line).length = index + 1 + 2 := by
    rw [List.length_cons, length]
  rw [behind, Option.map_some, ← lengthCons, List.take_length,
    List.drop_length]

theorem IsLine.append {line : Bytes} (isLine : IsLine line) {front : Bytes}
    (free : 0x0d ∉ front) : IsLine (front ++ line) := by
  induction front with
  | nil => exact isLine
  | cons byte rest ih =>
      rw [List.mem_cons, not_or] at free
      exact (ih free.2).cons (Ne.symm free.1)

theorem rstripLine_crlf (text : Bytes) :
    rstripLine (text ++ crlf) = rstripLine text := by
  have two : text ++ crlf = text ++ [0x0d] ++ [0x0a] := by
    rw [List.append_assoc]
    rfl
  unfold rstripLine
  rw [two, List.rdropWhile_concat_pos _ _ _ rfl,
    List.rdropWhile_concat_pos _ _ _ rfl]

theorem rstripLine_solid {byte : UInt8} (solid : isLineEnd byte = false)
    (front text : Bytes) :
    rstripLine (front ++ byte :: text) = front ++ byte :: rstripLine text := by
  have stays : ¬isLineEnd byte = true := by
    rw [solid]
    exact Bool.false_ne_true
  unfold rstripLine
  induction text using List.reverseRecOn with
  | nil =>
      rw [List.rdropWhile_concat_neg _ _ _ stays, List.rdropWhile_nil]
  | append_singleton text last ih =>
      rw [← List.cons_append, ← List.append_assoc]
      by_cases ends : isLineEnd last = true
      · rw [List.rdropWhile_concat_pos _ _ _ ends,
          List.rdropWhile_concat_pos _ _ _ ends]
        exact ih
      · rw [List.rdropWhile_concat_neg _ _ _ ends,
          List.rdropWhile_concat_neg _ _ _ ends, List.append_assoc]
        rfl

/-! ### Replaced line ends -/

theorem replaceCrlf_cons {byte : UInt8} {rest : Bytes}
    (apart : byte ≠ 0x0d ∨ rest.head? ≠ some 0x0a) :
    replaceCrlf (byte :: rest) = byte :: replaceCrlf rest := by
  cases rest with
  | nil => rfl
  | cons next behind =>
      rw [replaceCrlf, if_neg]
      rintro ⟨isReturn, isFeed⟩
      rcases apart with other | other
      · exact other isReturn
      · exact other (by rw [isFeed]; rfl)

/-- CR LF that stands astride is the only thing that keeps two texts
together. -/
theorem replaceCrlf_append {front behind : Bytes}
    (apart : front.getLast? ≠ some 0x0d ∨ behind.head? ≠ some 0x0a) :
    replaceCrlf (front ++ behind) = replaceCrlf front ++ replaceCrlf behind := by
  fun_induction replaceCrlf front with
  | case1 => rfl
  | case2 byte =>
      rw [List.singleton_append, replaceCrlf_cons]
      · rfl
      · refine apart.imp_left (fun other same => other ?_)
        rw [same]
        rfl
  | case3 byte next rest lineEnd ih =>
      have later : rest.getLast? ≠ some 0x0d ∨ behind.head? ≠ some 0x0a := by
        refine apart.imp_left (fun other same => other ?_)
        rw [List.getLast?_cons_cons, List.getLast?_cons, same]
        rfl
      rw [List.cons_append, List.cons_append, List.cons_append, ← ih later]
      exact if_pos lineEnd
  | case4 byte next rest other ih =>
      rw [List.getLast?_cons_cons] at apart
      rw [List.cons_append, List.cons_append, List.cons_append, ← ih apart]
      exact if_neg other

theorem replaceCrlf_length_pos {text : Bytes} (present : text ≠ []) :
    1 ≤ (replaceCrlf text).length := by
  cases text with
  | nil => exact absurd rfl present
  | cons byte rest =>
      cases rest with
      | nil => exact le_rfl
      | cons next behind =>
          rw [replaceCrlf]
          split <;> exact Nat.succ_pos _

theorem dropLineFeed_length (raw : Bytes) :
    (dropLineFeed raw).length ≤ raw.length := by
  unfold dropLineFeed
  split
  · rw [List.length_dropLast]
    exact Nat.sub_le _ _
  · exact le_rfl

theorem replaceCrlf_line (text : Bytes) :
    replaceCrlf (text ++ crlf) = replaceCrlf text ++ [0x0a] :=
  replaceCrlf_append (Or.inr (by decide))

/-! ### Text without line ends -/

/-- Text that holds neither CR nor LF. -/
def LineFree (text : Bytes) : Prop := ∀ byte ∈ text, isLineEnd byte = false

instance (text : Bytes) : Decidable (LineFree text) :=
  inferInstanceAs (Decidable (∀ byte ∈ text, isLineEnd byte = false))

/-- Lines of such text, each with its end. -/
def crlfLines (lines : List Bytes) : Bytes := (lines.map (· ++ crlf)).flatten

variable {text : Bytes} {lines : List Bytes}

theorem LineFree.not_mem (free : LineFree text) {byte : UInt8}
    (ends : isLineEnd byte = true) : byte ∉ text := by
  intro member
  rw [free byte member] at ends
  cases ends

theorem LineFree.append {text' : Bytes} (free : LineFree text)
    (free' : LineFree text') : LineFree (text ++ text') := by
  intro byte member
  exact (List.mem_append.mp member).elim (free byte) (free' byte)

theorem LineFree.isLine (free : LineFree text) : IsLine (text ++ crlf) :=
  isLine_of_free (free.not_mem rfl)

theorem LineFree.rstripLine (free : LineFree text) :
    rstripLine (text ++ crlf) = text := by
  rw [rstripLine_crlf]
  induction text using List.reverseRecOn with
  | nil => rfl
  | append_singleton front last _ih =>
      have solid := free last (List.mem_append_right _ List.mem_cons_self)
      exact List.rdropWhile_concat_neg _ _ _ (by simp [solid])

theorem LineFree.replaceCrlf (free : LineFree text) :
    replaceCrlf text = text := by
  induction text with
  | nil => rfl
  | cons byte rest ih =>
      have here := free byte List.mem_cons_self
      have other : byte ≠ 0x0d := by
        rintro rfl
        cases here
      rw [replaceCrlf_cons (Or.inl other),
        ih fun byte member => free byte (List.mem_cons_of_mem _ member)]

theorem replaceCrlf_crlfLines (free : ∀ line ∈ lines, LineFree line) :
    replaceCrlf (crlfLines lines) = (lines.map (· ++ [0x0a])).flatten := by
  unfold crlfLines
  induction lines with
  | nil => rfl
  | cons line rest ih =>
      rw [List.forall_mem_cons] at free
      have apart : (line ++ crlf).getLast? ≠ some 0x0d := by
        rw [List.getLast?_append]
        change some (0x0a : UInt8) ≠ some 0x0d
        decide
      rw [List.map_cons, List.flatten_cons, replaceCrlf_append (Or.inl apart),
        replaceCrlf_line, free.1.replaceCrlf, ih free.2]
      rfl

theorem dropLineFeed_crlfLines (free : ∀ line ∈ lines, LineFree line) :
    dropLineFeed (replaceCrlf (crlfLines lines)) = joinLines lines := by
  rw [replaceCrlf_crlfLines free]
  by_cases present : lines = []
  · rw [present]
    rfl
  · rw [← intercalate_append [0x0a] present]
    unfold dropLineFeed
    rw [List.getLast?_concat, if_pos rfl, List.dropLast_concat]
    rfl

theorem prefix_joinLines (line : Bytes) (rest : List Bytes) :
    line <+: joinLines (line :: rest) := by
  unfold joinLines
  by_cases last : rest = []
  · rw [last, List.intercalate_singleton]
  · rw [List.intercalate_cons_of_ne_nil last]
    exact ⟨_, (List.append_assoc _ _ _).symm⟩

theorem splitOn_joinLines (free : ∀ line ∈ lines, LineFree line)
    (present : lines ≠ []) : (joinLines lines).splitOn 0x0a = lines :=
  List.splitOn_intercalate 0x0a
    (fun line member => (free line member).not_mem rfl) present

/-! ### Digits -/

theorem isDigits_free {digits : Bytes} (isDigits : isDigits digits = true)
    {byte : UInt8} (other : ¬(0x30 ≤ byte ∧ byte ≤ 0x39)) : byte ∉ digits := by
  intro member
  have all := (of_decide_eq_true isDigits).2
  exact other (of_decide_eq_true (List.all_eq_true.mp all byte member))

theorem decimal_digit {n : Nat} {c : Char} (member : c ∈ decimal n) :
    '0' ≤ c ∧ c ≤ '9' := by
  have digit := Nat.isDigit_of_mem_toDigits (by decide) (by decide) member
  unfold Char.isDigit at digit
  rw [Bool.and_eq_true, decide_eq_true_iff, decide_eq_true_iff] at digit
  exact digit

theorem digitsValue_decimal (n : Nat) : digitsValue 10 (decimal n) = n := by
  have same : ∀ (digits : PyStr) (value : Nat),
      (∀ c ∈ digits, '0' ≤ c ∧ c ≤ '9') →
        digits.foldl (fun value c => value * 10 + (digitValue c).getD 0) value =
          Nat.ofDigitChars 10 digits value := by
    intro digits
    induction digits with
    | nil => exact fun value _all => Nat.ofDigitChars_nil.symm
    | cons c rest ih =>
        intro value all
        have here : (digitValue c).getD 0 = c.toNat - '0'.toNat := by
          unfold digitValue
          rw [if_pos (all c List.mem_cons_self)]
          rfl
        rw [List.foldl_cons, Nat.ofDigitChars_cons, here, Nat.mul_comm value]
        exact ih _ fun d member => all d (List.mem_cons_of_mem _ member)
  unfold digitsValue
  rw [same _ _ fun c member => decimal_digit member]
  exact Nat.ofDigitChars_ten_toDigits

theorem decimal_isAscii (n : Nat) : IsAscii (decimal n) := by
  intro c member
  have upper : c.toNat ≤ '9'.toNat := (decimal_digit member).2
  exact lt_of_le_of_lt upper (by decide)

theorem decodeLatin1_decimalBytes (n : Nat) :
    decodeLatin1 (decimalBytes n) = decimal n := by
  unfold decodeLatin1 decimalBytes
  rw [List.map_map]
  refine (List.map_congr_left ?_).trans (List.map_id _)
  intro c member
  exact (char_asciiByte (decimal_isAscii n c member)).1

theorem intOfDigits_decimalBytes (n : Nat) :
    intOfDigits (decimalBytes n) = n := by
  unfold intOfDigits
  rw [decodeLatin1_decimalBytes, digitsValue_decimal]

theorem isDigits_decimalBytes (n : Nat) : isDigits (decimalBytes n) = true := by
  have present : decimalBytes n ≠ [] :=
    fun none => Nat.toDigits_ne_nil (List.map_eq_nil_iff.mp none)
  refine decide_eq_true ⟨present, List.all_eq_true.mpr ?_⟩
  intro byte member
  obtain ⟨c, digit, rfl⟩ := List.mem_map.mp member
  have range := decimal_digit digit
  revert range
  apply forall_ascii (P := fun c => '0' ≤ c ∧ c ≤ '9' →
    decide (0x30 ≤ asciiByte c ∧ asciiByte c ≤ 0x39) = true) _
    (decimal_isAscii n c digit)
  decide +kernel

/-! ### Parsers that take line by line -/

/-- The loop `while b'\r\n' in self._buffer` around what is done with a line. -/
def lineFeeder {σ : Type} (dispatch : σ → Bytes → σ) : Feeder σ UInt8 where
  step s buf := (takeLine buf).map fun taken =>
    (dispatch s taken.1, taken.2)
  shorter := by
    intro s t xs ys stepped
    obtain ⟨⟨line, rest⟩, taken, same⟩ := Option.map_eq_some_iff.mp stepped
    rw [Prod.mk.injEq] at same
    rw [← same.2]
    exact takeLine_shorter taken
  stable := by
    intro s t xs ys stepped more
    obtain ⟨⟨line, rest⟩, taken, same⟩ := Option.map_eq_some_iff.mp stepped
    rw [Prod.mk.injEq] at same
    rw [takeLine_more taken more, ← same.1, ← same.2]
    rfl

theorem lineFeeder_step {σ : Type} {dispatch : σ → Bytes → σ} {line : Bytes}
    (isLine : IsLine line) (s : σ) (behind : Bytes) :
    (lineFeeder dispatch).step s (line ++ behind) =
      some (dispatch s line, behind) := by
  unfold lineFeeder
  dsimp only
  rw [isLine.takeLine]
  rfl

theorem IsLine.unfinished {line front rest : Bytes} (isLine : IsLine line)
    (parts : front ++ rest = line) (open_ : rest ≠ []) :
    DpktNg.takeLine front = none := by
  cases taken : DpktNg.takeLine front with
  | none => rfl
  | some result =>
      obtain ⟨line', behind⟩ := result
      have whole := takeLine_more taken rest
      unfold IsLine at isLine
      rw [parts, isLine, Option.some.injEq, Prod.mk.injEq] at whole
      exact absurd (List.append_eq_nil_iff.mp whole.2.symm).2 open_

/-- The lines that are complete in the front of a stream of lines. -/
theorem lineFeeder_drain {σ : Type} {dispatch : σ → Bytes → σ}
    {lines : List Bytes} (isLine : ∀ line ∈ lines, IsLine line)
    {buffer rest : Bytes} (joined : buffer ++ rest = lines.flatten) (s : σ) :
    ∃ now later behind, lines = now ++ later ∧
      buffer = now.flatten ++ behind ∧ behind ++ rest = later.flatten ∧
      takeLine behind = none ∧
      (lineFeeder dispatch).drain s buffer =
        { state := now.foldl dispatch s, buffer := behind } := by
  induction lines generalizing buffer s with
  | nil =>
      obtain ⟨rfl, rfl⟩ := List.append_eq_nil_iff.mp joined
      exact ⟨[], [], [], rfl, rfl, rfl, rfl, Feeder.drain_none rfl⟩
  | cons line tail ih =>
      have single := isLine line List.mem_cons_self
      rw [List.flatten_cons] at joined
      rcases List.append_eq_append_iff.mp joined with
        ⟨more, whole, behind⟩ | ⟨more, rfl, behind⟩
      · by_cases complete : more = []
        · rw [complete, List.append_nil] at whole
          rw [complete, List.nil_append] at behind
          obtain ⟨now, later, left, rfl, none, parts, stuck, run⟩ := @ih
            (fun l member => isLine l (List.mem_cons_of_mem _ member)) []
            behind (dispatch s line)
          refine ⟨line :: now, later, left, rfl, ?_, parts, stuck, ?_⟩
          · rw [List.flatten_cons, List.append_assoc, ← none, List.append_nil,
              whole]
          · have stepped := @lineFeeder_step _ dispatch _ single s []
            rw [List.append_nil] at stepped
            rw [← whole, Feeder.drain_some stepped, run]
            rfl
        · have stuck := single.unfinished whole.symm complete
          refine ⟨[], line :: tail, buffer, rfl, rfl, ?_, stuck, ?_⟩
          · rw [joined, List.flatten_cons]
          · apply Feeder.drain_none
            change (DpktNg.takeLine buffer).map _ = none
            rw [stuck]
            rfl
      · obtain ⟨now, later, left, rfl, parted, parts, stuck, run⟩ := @ih
          (fun l member => isLine l (List.mem_cons_of_mem _ member)) more
          behind.symm (dispatch s line)
        refine ⟨line :: now, later, left, rfl, ?_, parts, stuck, ?_⟩
        · rw [List.flatten_cons, List.append_assoc, ← parted]
        · rw [Feeder.drain_some (lineFeeder_step single s more), run]
          rfl

/-- Lines are handled one after the other, in whatever pieces they come. -/
theorem lineFeeder_feedAll {σ : Type} {dispatch : σ → Bytes → σ}
    {lines : List Bytes} (isLine : ∀ line ∈ lines, IsLine line)
    (cutting : Cutting lines.flatten) (s : σ) :
    (lineFeeder dispatch).feedAll { state := s, buffer := [] } cutting.pieces =
      { state := lines.foldl dispatch s, buffer := [] } :=
  Feeder.feedAll_records cutting
    (fun line member => lineFeeder_step (isLine line member)) s

end DpktNg
