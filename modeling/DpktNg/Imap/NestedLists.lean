/-
IMAP lists as RFC texts are made of them, and when one reads the same on its own
as inside another.
-/

import DpktNg.Imap.ReadAlike

namespace DpktNg.Imap

open Library

structure Atom where
  bytes : Bytes
  present : bytes ≠ []
  atomBytes : ∀ byte ∈ bytes, isAtomByte byte = true ∧ byte ≠ 0x7b

inductive QuotedPart where
  | plain (byte : UInt8) (isPlain : byte ≠ 0x22 ∧ byte ≠ 0x5c)
  | escaped (byte : UInt8)

def QuotedPart.text : QuotedPart → Bytes
  | .plain byte _ => [byte]
  | .escaped byte => [0x5c, byte]

/-- A literal, with the number of its bytes as it is written. -/
structure Literal where
  size : Bytes
  data : Bytes
  digits : isDigits size = true
  counts : intOfDigits size = data.length

inductive Token where
  | space
  | atom (atom : Atom)
  | quoted (parts : List QuotedPart)
  | literal (literal : Literal)
  | list (items : List Token)

mutual

def Token.text : Token → Bytes
  | .space => [0x20]
  | .atom atom => atom.bytes
  | .quoted parts => 0x22 :: (parts.flatMap QuotedPart.text ++ [0x22])
  | .literal literal =>
      0x7b :: (literal.size ++ 0x7d :: (crlf ++ literal.data))
  | .list items => 0x28 :: (tokensText items ++ [0x29])

def tokensText : List Token → Bytes
  | [] => []
  | token :: rest => token.text ++ tokensText rest

end

def listText (items : List Token) : Bytes :=
  asciiBytes "(" ++ (tokensText items ++ asciiBytes ")")

/-- A list reads the same inside another exactly where both parsers read its
text alike. -/
theorem imap_lists_agree_iff (items : List Token) :
    parseImapList (asciiBytes "(" ++ listText items ++ asciiBytes ")") =
        [.list (parseImapList (listText items))] ↔
      readAlike false (tokensText items ++ asciiBytes ")") = true :=
  wrapped_iff (tokensText items ++ asciiBytes ")")

/-- `({3}` and three bytes -/
def threeBytes : List Token :=
  [.literal
    { size := asciiBytes "3"
      data := asciiBytes "abc"
      digits := by decide +kernel
      counts := by decide +kernel }]

theorem threeBytes_differ :
    parseImapList (asciiBytes "(" ++ listText threeBytes ++ asciiBytes ")") ≠
      [.list (parseImapList (listText threeBytes))] := by
  unfold listText
  rw [Ne, wrapped_iff]
  decide +kernel

end DpktNg.Imap
