/-
Text of ASCII characters, as `decode('ascii', 'ignore')` yields it, and the
methods of `str` and `bytes` that cut it into lines and words.
-/

import DpktNg.Library.Words
import DpktNg.Python.FileObject
import DpktNg.Python.Bytes
import DpktNg.Python.Str

namespace DpktNg

open Library

/-- White space of ASCII text: that of byte strings, and four separators. -/
def isStrSpace (c : Char) : Bool :=
  c = ' ' ∨ ('\t' ≤ c ∧ c ≤ '\r') ∨ ('\x1c' ≤ c ∧ c ≤ '\x1f')

def stripBytes (bytes : Bytes) : Bytes := trim isSpaceByte bytes

def stripText (text : PyStr) : PyStr := trim isStrSpace text

def splitText (text : PyStr) : List PyStr := words isStrSpace text

def lowerText (text : PyStr) : PyStr := text.map Char.toLower

def isDigitText (text : PyStr) : Bool :=
  text ≠ [] ∧ text.all fun c => '0' ≤ c ∧ c ≤ '9'

def decodeAscii (bytes : Bytes) : PyStr :=
  decodeLatin1 (bytes.filter fun byte => byte < 0x80)

def asciiByte (c : Char) : UInt8 := UInt8.ofNat c.toNat

def encodeAscii (text : PyStr) : Bytes :=
  (text.filter fun c => c.toNat < 0x80).map asciiByte

def reprChar (quote c : Char) : PyStr :=
  if c = '\t' then ['\\', 't']
  else if c = '\n' then ['\\', 'n']
  else if c = '\r' then ['\\', 'r']
  else if c = quote ∨ c = '\\' then ['\\', c]
  else if 0x20 ≤ c.toNat ∧ c.toNat < 0x7f then [c]
  else '\\' :: 'x' :: hex2 c.toNat

/-- `repr` of ASCII text: quoted with `'` unless it holds one and no `"`. -/
def reprText (text : PyStr) : PyStr :=
  let quote := if '\'' ∈ text ∧ '"' ∉ text then '"' else '\''
  quote :: (text.flatMap (reprChar quote) ++ [quote])

/-- `str` of a list of texts. -/
def reprList (texts : List PyStr) : PyStr :=
  '[' :: ([',', ' '].intercalate (texts.map reprText) ++ [']'])

def IsAscii (text : PyStr) : Prop := ∀ c ∈ text, c.toNat < 0x80

/-- A property of every ASCII character, from a table. -/
theorem forall_ascii {P : Char → Prop} (table : ∀ n < 0x80, P (Char.ofNat n))
    {c : Char} (ascii : c.toNat < 0x80) : P c := by
  have here := table c.toNat ascii
  rw [Char.ofNat_toNat] at here
  exact here

theorem IsAscii.append {text text' : PyStr} (ascii : IsAscii text)
    (ascii' : IsAscii text') : IsAscii (text ++ text') :=
  List.forall_mem_append.mpr ⟨ascii, ascii'⟩

theorem IsAscii.subset {text piece : PyStr} (ascii : IsAscii text)
    (inside : piece ⊆ text) : IsAscii piece :=
  fun c member => ascii c (inside member)

theorem encodeAscii_eq {text : PyStr} (ascii : IsAscii text) :
    encodeAscii text = text.map asciiByte := by
  unfold encodeAscii
  rw [List.filter_eq_self.mpr]
  intro c member
  exact decide_eq_true (ascii c member)

theorem char_asciiByte {c : Char} (ascii : c.toNat < 0x80) :
    Char.ofNat (asciiByte c).toNat = c ∧ asciiByte c < 0x80 := by
  revert ascii
  apply forall_ascii
  decide +kernel

theorem asciiByte_char : ∀ byte : UInt8, byte < 0x80 →
    asciiByte (Char.ofNat byte.toNat) = byte ∧
      (Char.ofNat byte.toNat).toNat < 0x80 := by
  apply forall_byte
  decide +kernel

theorem decodeAscii_map {text : PyStr} (ascii : IsAscii text) :
    decodeAscii (text.map asciiByte) = text := by
  have kept : ∀ byte ∈ text.map asciiByte, decide (byte < 0x80) = true := by
    intro byte member
    obtain ⟨c, present, rfl⟩ := List.mem_map.mp member
    exact decide_eq_true (char_asciiByte (ascii c present)).2
  unfold decodeAscii decodeLatin1
  rw [List.filter_eq_self.mpr kept, List.map_map]
  refine (List.map_congr_left ?_).trans (List.map_id text)
  intro c member
  exact (char_asciiByte (ascii c member)).1

theorem decodeAscii_isAscii (bytes : Bytes) : IsAscii (decodeAscii bytes) := by
  intro c member
  unfold decodeAscii decodeLatin1 at member
  obtain ⟨byte, kept, rfl⟩ := List.mem_map.mp member
  have small := of_decide_eq_true (List.mem_filter.mp kept).2
  exact (asciiByte_char byte small).2

theorem map_decodeAscii {bytes : Bytes} (ascii : ∀ byte ∈ bytes, byte < 0x80) :
    (decodeAscii bytes).map asciiByte = bytes := by
  have kept : ∀ byte ∈ bytes, decide (byte < 0x80) = true := by
    intro byte member
    exact decide_eq_true (ascii byte member)
  unfold decodeAscii decodeLatin1
  rw [List.filter_eq_self.mpr kept, List.map_map]
  refine (List.map_congr_left ?_).trans (List.map_id bytes)
  intro byte member
  exact (asciiByte_char byte (ascii byte member)).1

/-- The white space that is stripped from lines of bytes. -/
def isLineSpace (c : Char) : Bool := isSpaceByte (asciiByte c)

theorem isStrSpace_of_isLineSpace {c : Char} (ascii : c.toNat < 0x80) :
    isLineSpace c = true → isStrSpace c = true := by
  revert ascii
  apply forall_ascii
  decide +kernel

theorem isLineSpace_of_word {c : Char} (ascii : c.toNat < 0x80)
    (free : isStrSpace c = false) : isLineSpace c = false := by
  rw [← Bool.not_eq_true]
  intro blank
  rw [isStrSpace_of_isLineSpace ascii blank] at free
  cases free

theorem asciiByte_eq_lineFeed {c : Char} (ascii : c.toNat < 0x80) :
    asciiByte c = 0x0a → c = '\n' := by
  revert ascii
  apply forall_ascii
  decide +kernel

theorem lineEnd_isAscii : IsAscii ['\r', '\n'] := by
  unfold IsAscii
  rw [List.forall_mem_cons, List.forall_mem_singleton]
  decide

theorem lineEnd_isLineSpace : ∀ c ∈ ['\r', '\n'], isLineSpace c = true := by
  rw [List.forall_mem_cons, List.forall_mem_singleton]
  decide

theorem readline_text {text : PyStr} (ascii : IsAscii text)
    (single : '\n' ∉ text) (behind : Bytes) :
    readline ((text ++ ['\r', '\n']).map asciiByte ++ behind) =
      ((text ++ ['\r', '\n']).map asciiByte, behind) := by
  have inner : (0x0a : UInt8) ∉ (text ++ ['\r']).map asciiByte := by
    intro member
    obtain ⟨c, present, same⟩ := List.mem_map.mp member
    rcases List.mem_append.mp present with inText | isReturn
    · rw [asciiByte_eq_lineFeed (ascii c inText) same] at inText
      exact single inText
    · rw [List.mem_singleton.mp isReturn] at same
      revert same
      decide
  have split : (text ++ ['\r', '\n']).map asciiByte =
      (text ++ ['\r']).map asciiByte ++ [0x0a] := by
    rw [List.map_append, List.map_append, List.append_assoc]
    rfl
  rw [split, List.append_assoc, List.singleton_append,
    readline_lineFeed inner]

theorem lineFeed_not_mem_strip (file : Bytes) :
    0x0a ∉ stripBytes (readline file).1 := by
  intro member
  obtain ⟨before, behind, split⟩ :=
    @trim_isInfix _ isSpaceByte (readline file).1
  have solid := @trim_solidBack _ isSpaceByte (readline file).1
  have present := List.ne_nil_of_mem member
  obtain ⟨inner, last, same⟩ : ∃ inner last,
      trim isSpaceByte (readline file).1 = inner ++ [last] :=
    ⟨_, _, (List.dropLast_append_getLast present).symm⟩
  have lastSolid : isSpaceByte last = false := by
    apply solid last
    rw [same, List.getLast?_concat]
    rfl
  have notLast : (0x0a : UInt8) ≠ last := by
    intro isLast
    rw [← isLast] at lastSolid
    revert lastSolid
    decide
  have inInner : (0x0a : UInt8) ∈ inner := by
    unfold stripBytes at member
    rw [same, List.mem_append, List.mem_singleton] at member
    exact member.resolve_right notLast
  -- so a line feed stands in front of the last byte of the line
  have line : (readline file).1 =
      before ++ inner ++ (last :: behind).dropLast ++
        [(last :: behind).getLast (List.cons_ne_nil _ _)] := by
    rw [List.append_assoc (before ++ inner),
      List.dropLast_append_getLast, ← split, same]
    simp only [List.append_assoc, List.singleton_append]
  have absent := readline_inner line
  rw [List.mem_append, List.mem_append] at absent
  exact absent (Or.inl (Or.inr inInner))

/-- Stripping the line takes its end away, and further white space behind the
text. -/
theorem stripBytes_text {text blank : PyStr}
    (front : SolidFront isLineSpace text) (back : SolidBack isLineSpace text)
    (present : text ≠ []) (isBlank : ∀ c ∈ blank, isLineSpace c = true) :
    stripBytes ((text ++ blank).map asciiByte) = text.map asciiByte := by
  unfold stripBytes
  rw [trim_map]
  exact congrArg (List.map asciiByte) (trim_append front back present isBlank)

theorem toLower_ascii {c : Char} (ascii : c.toNat < 0x80) :
    c.toLower.toNat < 0x80 ∧ c.toLower.toLower = c.toLower ∧
      isStrSpace c.toLower = isStrSpace c ∧
        isLineSpace c.toLower = isLineSpace c ∧
          (c.toLower = ':' → c = ':') ∧ (c.toLower = '\n' → c = '\n') := by
  revert ascii
  apply forall_ascii
  decide +kernel

theorem IsAscii.lower {text : PyStr} (ascii : IsAscii text) :
    IsAscii (lowerText text) := by
  intro c member
  obtain ⟨original, present, rfl⟩ := List.mem_map.mp member
  exact (toLower_ascii (ascii original present)).1

theorem lowerText_lower {text : PyStr} (ascii : IsAscii text) :
    lowerText (lowerText text) = lowerText text := by
  unfold lowerText
  rw [List.map_map]
  apply List.map_congr_left
  intro c member
  exact (toLower_ascii (ascii c member)).2.1

/-- Lower case brings in no colon and no line feed, and leaves the white space
where it is. -/
theorem lowerText_marks {text : PyStr} (ascii : IsAscii text) :
    (':' ∈ lowerText text → ':' ∈ text) ∧
      ('\n' ∈ lowerText text → '\n' ∈ text) ∧
        (SolidFront isLineSpace text →
          SolidFront isLineSpace (lowerText text)) := by
  refine ⟨?_, ?_, ?_⟩
  · intro member
    obtain ⟨original, present, same⟩ := List.mem_map.mp member
    rw [← (toLower_ascii (ascii original present)).2.2.2.2.1 same]
    exact present
  · intro member
    obtain ⟨original, present, same⟩ := List.mem_map.mp member
    rw [← (toLower_ascii (ascii original present)).2.2.2.2.2 same]
    exact present
  · intro solid
    unfold lowerText
    rw [solidFront_map]
    intro c first
    have member := List.mem_of_mem_head? first
    have same := (toLower_ascii (ascii c member)).2.2.2.1
    exact same.trans (solid c first)

theorem hex2_plain {n : Nat} (small : n < 0x80) :
    ∀ d ∈ hex2 n, d.toNat < 0x80 ∧ d ≠ '\n' := by
  have digit : ∀ m < 16, (hexDigit m).toNat < 0x80 ∧ hexDigit m ≠ '\n' := by
    decide
  intro d member
  rcases List.mem_pair.mp member with rfl | rfl
  · exact digit _ (by omega)
  · exact digit _ (by omega)

theorem reprChar_plain {quote c : Char} (ascii : c.toNat < 0x80) :
    ∀ d ∈ reprChar quote c, d.toNat < 0x80 ∧ d ≠ '\n' := by
  have escape : ('\\' : Char).toNat < 0x80 ∧ '\\' ≠ '\n' := by decide
  intro d member
  unfold reprChar at member
  split_ifs at member with isTab isFeed isReturn isEscaped isPrinted
  · rcases List.mem_pair.mp member with rfl | rfl <;> decide
  · rcases List.mem_pair.mp member with rfl | rfl <;> decide
  · rcases List.mem_pair.mp member with rfl | rfl <;> decide
  · rcases List.mem_pair.mp member with rfl | rfl
    · exact escape
    · exact ⟨ascii, isFeed⟩
  · rw [List.mem_singleton.mp member]
    exact ⟨ascii, isFeed⟩
  · rcases List.mem_cons.mp member with rfl | later
    · exact escape
    · rcases List.mem_cons.mp later with rfl | digits
      · decide
      · exact hex2_plain ascii d digits

theorem reprText_plain {text : PyStr} (ascii : IsAscii text) :
    ∀ d ∈ reprText text, d.toNat < 0x80 ∧ d ≠ '\n' := by
  unfold reprText
  have plain : ∀ quote : Char, quote = '\'' ∨ quote = '"' →
      ∀ d ∈ quote :: (text.flatMap (reprChar quote) ++ [quote]),
        d.toNat < 0x80 ∧ d ≠ '\n' := by
    intro quote isQuote d member
    have quotePlain : quote.toNat < 0x80 ∧ quote ≠ '\n' := by
      rcases isQuote with rfl | rfl <;> decide
    rw [List.mem_cons, List.mem_append, List.mem_singleton] at member
    rcases member with rfl | inner | rfl
    · exact quotePlain
    · obtain ⟨c, present, escaped⟩ := List.mem_flatMap.mp inner
      exact reprChar_plain (ascii c present) d escaped
    · exact quotePlain
  dsimp only
  split
  · exact plain '"' (Or.inr rfl)
  · exact plain '\'' (Or.inl rfl)

/-- A property of the pieces and of the separator is one of the joined text. -/
theorem forall_mem_intercalate {α : Type} {P : α → Prop} {sep : List α}
    {pieces : List (List α)} (between : ∀ c ∈ sep, P c)
    (inside : ∀ piece ∈ pieces, ∀ c ∈ piece, P c) :
    ∀ c ∈ sep.intercalate pieces, P c := by
  induction pieces with
  | nil => exact List.forall_mem_nil _
  | cons piece rest ih =>
      obtain ⟨first, others⟩ := List.forall_mem_cons.mp inside
      by_cases last : rest = []
      · rw [last, List.intercalate_singleton]
        exact first
      · rw [List.intercalate_cons_of_ne_nil last, List.forall_mem_append,
          List.forall_mem_append]
        exact ⟨⟨first, between⟩, ih others⟩

theorem reprList_plain {texts : List PyStr}
    (ascii : ∀ text ∈ texts, IsAscii text) :
    ∀ d ∈ reprList texts, d.toNat < 0x80 ∧ d ≠ '\n' := by
  have inner : ∀ d ∈ [',', ' '].intercalate (texts.map reprText),
      d.toNat < 0x80 ∧ d ≠ '\n' := by
    apply forall_mem_intercalate
    · rw [List.forall_mem_cons, List.forall_mem_singleton]
      decide
    · intro piece member
      obtain ⟨text, present, rfl⟩ := List.mem_map.mp member
      exact reprText_plain (ascii text present)
  unfold reprList
  rw [List.forall_mem_cons, List.forall_mem_append,
    List.forall_mem_singleton]
  exact ⟨by decide, inner, by decide⟩

end DpktNg
