/-
IMAP commands, responses and parenthesised lists, dpkt/imap.py.
-/

import DpktNg.Python.Lines
import DpktNg.Python.Struct

namespace DpktNg.Imap

open Library

/-- An item of a list: bytes, or a list again. -/
inductive Item where
  | bytes (value : Bytes)
  | list (items : List Item)

/-- Items with one more, where there is any. -/
def withAtom (items : List Item) (buf : Bytes) : List Item :=
  if buf = [] then items else items ++ [.bytes buf]

/-- The bytes of a quoted string up to the closing quote, and what stands behind
that. -/
def quotedFrom : Bytes → Bytes × Bytes
  | [] => ([], [])
  | [byte] => if byte = 0x22 ∨ byte = 0x5c then ([], []) else ([byte], [])
  | byte :: next :: rest =>
      if byte = 0x22 then ([], next :: rest)
      else if byte = 0x5c then
        (next :: (quotedFrom rest).1, (quotedFrom rest).2)
      else
        (byte :: (quotedFrom (next :: rest)).1, (quotedFrom (next :: rest)).2)

def quote (value : Bytes) : Bytes := asciiBytes "\"" ++ value ++ asciiBytes "\""

theorem quotedFrom_length (data : Bytes) :
    (quotedFrom data).2.length ≤ data.length := by
  fun_induction quotedFrom data with
  | case1 => exact le_rfl
  | case2 byte stops => exact Nat.zero_le _
  | case3 byte goesOn => exact Nat.zero_le _
  | case4 next rest =>
      simp only [List.length_cons]
      omega
  | case5 next rest _ ih =>
      simp only [List.length_cons]
      omega
  | case6 byte next rest _ _ ih =>
      simp only [List.length_cons] at ih ⊢
      omega

/-- `_parse_imap_sublist` from behind the opening parenthesis: the items, and
what is left of the data behind the closing one. -/
def parseImapSublist (items : List Item) (buf : Bytes) :
    (data : Bytes) → List Item × {left : Bytes // left.length ≤ data.length}
  | [] => (withAtom items buf, ⟨[], le_rfl⟩)
  | c :: rest =>
      if c = 0x29 then (withAtom items buf, ⟨rest, Nat.le_succ _⟩)
      else if c = 0x28 then
        let sub := parseImapSublist [] [] rest
        let later := parseImapSublist (items ++ [.list sub.1]) buf sub.2.1
        (later.1, ⟨later.2.1, (later.2.2.trans sub.2.2).trans (Nat.le_succ _)⟩)
      else if c = 0x20 then
        let later := parseImapSublist (withAtom items buf) [] rest
        (later.1, ⟨later.2.1, later.2.2.trans (Nat.le_succ _)⟩)
      else if c = 0x22 then
        let quoted := quotedFrom rest
        let later := parseImapSublist
          (withAtom items buf ++ [.bytes (quote quoted.1)]) [] quoted.2
        (later.1, ⟨later.2.1,
          (later.2.2.trans (quotedFrom_length rest)).trans (Nat.le_succ _)⟩)
      else
        let later := parseImapSublist items (buf ++ [c]) rest
        (later.1, ⟨later.2.1, later.2.2.trans (Nat.le_succ _)⟩)
termination_by data => data.length
decreasing_by
  · exact Nat.lt_succ_self _
  · exact Nat.lt_succ_of_le sub.2.2
  · exact Nat.lt_succ_self _
  · exact Nat.lt_succ_of_le (quotedFrom_length rest)
  · exact Nat.lt_succ_self _

/-- One byte less where it is this one. -/
def skipByte (byte : UInt8) (data : Bytes) : Bytes :=
  if data.head? = some byte then data.tail else data

theorem skipByte_length (byte : UInt8) (data : Bytes) :
    (skipByte byte data).length ≤ data.length := by
  unfold skipByte
  split
  · exact (List.tail_sublist data).length_le
  · exact le_rfl

def literalFrom (data : Bytes) : Bytes × Bytes :=
  let sizeStr := data.takeWhile (· ≠ 0x7d)
  let behind := skipByte 0x0a (skipByte 0x0d (data.drop (sizeStr.length + 1)))
  let litSize := if isDigits sizeStr then intOfDigits sizeStr else 0
  (asciiBytes "\x7b" ++ sizeStr ++ asciiBytes "\x7d" ++ behind.take litSize,
    behind.drop litSize)

theorem literalFrom_length (data : Bytes) :
    (literalFrom data).2.length ≤ data.length := by
  unfold literalFrom
  have afterFeed := skipByte_length 0x0a
    (skipByte 0x0d (data.drop ((data.takeWhile (· ≠ 0x7d)).length + 1)))
  have afterReturn := skipByte_length 0x0d
    (data.drop ((data.takeWhile (· ≠ 0x7d)).length + 1))
  rw [List.length_drop] at afterReturn
  dsimp only
  rw [List.length_drop]
  omega

def imapListFrom (items : List Item) (buf : Bytes) : Bytes → List Item
  | [] => withAtom items buf
  | c :: rest =>
      if c = 0x29 then withAtom items buf
      else if c = 0x28 then
        let sub := parseImapSublist [] [] rest
        imapListFrom (items ++ [.list sub.1]) buf sub.2.1
      else if c = 0x20 then imapListFrom (withAtom items buf) [] rest
      else if c = 0x22 then
        let quoted := quotedFrom rest
        imapListFrom (withAtom items buf ++ [.bytes (quote quoted.1)]) []
          quoted.2
      else if c = 0x7b then
        let literal := literalFrom rest
        imapListFrom (withAtom items buf ++ [.bytes literal.1]) [] literal.2
      else imapListFrom items (buf ++ [c]) rest
termination_by data => data.length
decreasing_by
  · exact Nat.lt_succ_of_le (parseImapSublist [] [] rest).2.2
  · exact Nat.lt_succ_self _
  · exact Nat.lt_succ_of_le (quotedFrom_length rest)
  · exact Nat.lt_succ_of_le (literalFrom_length rest)
  · exact Nat.lt_succ_self _

def parseImapList (data : Bytes) : List Item := imapListFrom [] [] (data.drop 1)

structure IMAPCommand where
  tag : Bytes
  verb : Bytes
  args : Bytes
  deriving DecidableEq

def IMAPCommand.parse (raw : Bytes) : IMAPCommand :=
  let parts := splitUpTo 0x20 2 (rstripLine raw)
  { tag := parts.getD 0 []
    verb := upper (parts.getD 1 [])
    args := parts.getD 2 [] }

inductive ResponseType where
  | unset
  | tagged
  | untagged
  | continuation
  deriving DecidableEq

structure IMAPResponse where
  type : ResponseType
  tag : Bytes
  status : Bytes
  text : Bytes
  data : List Item
  lines : List Bytes

def IMAPResponse.empty : IMAPResponse :=
  { type := .unset, tag := [], status := [], text := [], data := [], lines := [] }

def IMAPResponse.parseUntaggedData (response : IMAPResponse) (first : Bytes) :
    IMAPResponse :=
  let rest := stripBytes (first.drop 2)
  let parts := splitUpTo 0x20 2 rest
  if parts.length ≥ 3 ∧ upper (parts.getD 1 []) = asciiBytes "FETCH" ∧
      (asciiBytes "(").isPrefixOf (parts.getD 2 []) then
    { response with text := rest, data := parseImapList (parts.getD 2 []) }
  else { response with text := rest }

def untaggedStates : List Bytes :=
  ["OK", "NO", "BAD", "PREAUTH", "BYE"].map asciiBytes

def IMAPResponse.parse (raw : Bytes) : IMAPResponse :=
  if raw = [] then .empty
  else
    let lines := textLines raw
    let first := lines.headD []
    let response := { IMAPResponse.empty with lines := lines }
    if (asciiBytes "+").isPrefixOf first then
      { response with
        type := .continuation
        text := stripBytes (first.drop 1) }
    else if (asciiBytes "*").isPrefixOf first then
      let response := { response with type := .untagged }
      let rest := stripBytes (first.drop 2)
      let parts := splitUpTo 0x20 1 rest
      let keyword := parts.getD 0 []
      if isDigits keyword then response.parseUntaggedData first
      else if keyword ∈ untaggedStates then
        { response with status := keyword, text := parts.getD 1 [] }
      else if keyword = asciiBytes "SEARCH" then
        { response with
          data := (words isSpaceByte (parts.getD 1 [])).map .bytes }
      else
        -- the keywords that the source lists here are no different
        { response with text := rest }
    else
      let parts := splitUpTo 0x20 2 first
      { response with
        type := .tagged
        tag := parts.getD 0 []
        status := parts.getD 1 []
        text := parts.getD 2 [] }

end DpktNg.Imap
