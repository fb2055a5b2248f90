/-
The decoder of dpkt/asn1.py; trees of constructed elements over octet strings
and lists of integers, their encodings, and what `decode` makes of them.
-/

import DpktNg.Python.Integer
import DpktNg.Python.Struct

namespace DpktNg.Asn1

open Library

def constructed : UInt8 := 0x20

def tagmask : UInt8 := 0x1f

def integer : UInt8 := 2

def octetString : UInt8 := 4

def utcTime : UInt8 := 23

/-- The pairs of an identifier octet and a value, by the kind of the value. -/
inductive Element where
  | children (t : UInt8) (msg : List Element)
  | integer (t : UInt8) (n : Nat)
  | time (t : UInt8) (seconds : Int)
  | bytes (t : UInt8) (content : Bytes)

def compatOrd (buf : Bytes) (index : Nat) : Except PyError Nat :=
  byteAt buf index

def isLeap (year : Int) : Bool :=
  year % 4 = 0 ∧ (year % 100 ≠ 0 ∨ year % 400 = 0)

def daysBeforeMonth (year : Int) (month : Nat) : Int :=
  [0, 31, 59, 90, 120, 151, 181, 212, 243, 273, 304, 334].getD (month - 1) 0 +
    if month > 2 ∧ isLeap year then 1 else 0

/-- `datetime.date(year, month, 1).toordinal()` -/
def ordinal (year month : Int) : Except PyError Int :=
  if year < 1 ∨ 9999 < year then
    .error (.other "ValueError" ("year ".toList ++ (toString year).toList ++
      " is out of range".toList))
  else if month < 1 ∨ 12 < month then
    .error (.other "ValueError" "month must be in 1..12".toList)
  else
    let before := year - 1
    .ok (before * 365 + before / 4 - before / 100 + before / 400 +
      daysBeforeMonth year month.toNat + 1)

def timegm (year month day hour minute second : Int) : Except PyError Int := do
  let days := (← ordinal year month) - 719163 + day - 1
  let hours := days * 24 + hour
  let minutes := hours * 60 + minute
  .ok (minutes * 60 + second)

/-- `utctime` on a byte string, of which no item equals `'+'` or `'-'`, so that
an offset from UTC is not read. -/
def utctime (buf : Bytes) : Except PyError Int := do
  let yy ← intOfBytes (cut buf 0 2)
  let mn ← intOfBytes (cut buf 2 4)
  let dd ← intOfBytes (cut buf 4 6)
  let hh ← intOfBytes (cut buf 6 8)
  let mm ← intOfBytes (cut buf 8 10)
  let ss ← intOfBytes (cut buf 10 12)
  let _sign ← compatOrd (buf.drop 12) 0
  timegm (2000 + yy) mn dd hh mm ss

/-- The length `l_` of the content and the number `c` of further length octets,
from the first length octet. -/
def readLength (buf : Bytes) (isConstructed : Bool) (l : Nat) :
    Except PyError (Nat × Nat) :=
  if isConstructed ∧ l = 128 then .ok (l, 0)
  else if l ≥ 128 then
    let c := l &&& 127
    if c = 1 then do .ok (← compatOrd buf 2, c)
    else if c = 2 then do .ok (← unpackBe 2 (cut buf 2 4), c)
    else if c = 3 then do .ok ((← unpackBe 4 (cut buf 1 5)) &&& 0xfff, 2)
    else if c = 4 then do .ok (← unpackBe 4 (cut buf 2 6), c)
    else .error (.unpackError
      ("excessive long-form ASN.1 length ".toList ++ decimal l))
  else .ok (l, 0)

def readInteger (buf : Bytes) (l : Nat) : Except PyError Nat :=
  if l = 0 then .ok 0
  else if l = 1 then compatOrd buf 0
  else if l = 2 then unpackBe 2 (cut buf 0 2)
  else if l = 3 then do .ok ((← unpackBe 4 (cut buf 0 4)) >>> 8)
  else if l = 4 then unpackBe 4 (cut buf 0 4)
  else .error (.unpackError ("excessive integer length > ".toList ++
    decimal l ++ " bytes".toList))

/-- The element of a primitive encoding, from its content on. -/
def primitive (t : UInt8) (buf : Bytes) (l : Nat) : Except PyError Element :=
  let tag := t &&& tagmask
  if tag = integer then do .ok (.integer t (← readInteger buf l))
  else if tag = utcTime then do .ok (.time t (← utctime (buf.take l)))
  else .ok (.bytes t (buf.take l))

def decode (buf : Bytes) : Except PyError (List Element) :=
  match buf with
  | [] => .ok []
  | t :: rest => do
      let isConstructed : Bool := t &&& constructed ≠ 0
      let first ← compatOrd (t :: rest) 1
      -- the indefinite length, after which the element is decoded once more
      let indefinite ←
        (if isConstructed ∧ first = 128 then do
          .ok [Element.children t (← decode ((t :: rest).drop 2))]
        else .ok [])
      let (l, c) ← readLength (t :: rest) isConstructed first
      let content := (t :: rest).drop (2 + c)
      let element ←
        (if isConstructed then do .ok (Element.children t (← decode content))
        else primitive t content l)
      let others ← decode (content.drop l)
      .ok (indefinite ++ element :: others)
termination_by buf.length
decreasing_by
  all_goals
    simp only [List.length_drop, List.length_cons]
    omega

/-! ### Trees and encodings -/

/-- The length octets of the distinguished encoding, for a content that is
shorter than `2 ^ 24`. -/
def lengthOctets (n : Nat) : Bytes :=
  if n < 128 then [UInt8.ofNat n]
  else if n < 256 then 0x81 :: beBytes 1 n
  else if n < 256 ^ 2 then 0x82 :: beBytes 2 n
  else 0x83 :: beBytes 3 n

def encoding (t : UInt8) (content : Bytes) : Bytes :=
  t :: (lengthOctets content.length ++ content)

/-- Constructed elements with a single identifier octet, over octet strings. -/
inductive Tree where
  | leaf (content : Bytes)
  | node (t : UInt8) (isConstructed : t &&& constructed ≠ 0)
      (children : List Tree)

namespace Tree

mutual

def bytes : Tree → Bytes
  | .leaf content => encoding octetString content
  | .node t _ children => encoding t (bytesAll children)

def bytesAll : List Tree → Bytes
  | [] => []
  | tree :: rest => bytes tree ++ bytesAll rest

end

def content : Tree → Bytes
  | .leaf content => content
  | .node _ _ children => bytesAll children

def t : Tree → UInt8
  | .leaf _ => octetString
  | .node t _ _ => t

mutual

/-- The pair that stands for the tree: the value of a constructed element is
the list of its own children. -/
def element : Tree → Element
  | .leaf content => .bytes octetString content
  | .node t _ children => .children t (elements children)

def elements : List Tree → List Element
  | [] => []
  | tree :: rest => element tree :: elements rest

end

def IsNode : Tree → Prop
  | .leaf _ => False
  | .node _ _ _ => True

mutual

/-- Below the root, every constructed element is the last child. -/
def NestsLast : Tree → Prop
  | .leaf _ => True
  | .node _ _ children => AllNestLast children

/-- The same for siblings, and among them. -/
def AllNestLast : List Tree → Prop
  | [] => True
  | tree :: rest =>
      (IsNode tree → rest = []) ∧ NestsLast tree ∧ AllNestLast rest

end

theorem bytes_eq (tree : Tree) : tree.bytes = encoding tree.t tree.content := by
  cases tree with
  | leaf content => rfl
  | node t isConstructed children => rfl

theorem bytesAll_append (first second : List Tree) :
    bytesAll (first ++ second) = bytesAll first ++ bytesAll second := by
  induction first with
  | nil => rfl
  | cons tree rest ih =>
      rw [List.cons_append, bytesAll, bytesAll, ih, List.append_assoc]

theorem elements_length (trees : List Tree) :
    (elements trees).length = trees.length := by
  induction trees with
  | nil => rfl
  | cons tree rest ih => rw [elements, List.length_cons, ih, List.length_cons]

theorem encoding_length (t : UInt8) (content : Bytes) :
    content.length + 2 ≤ (encoding t content).length := by
  have positive : 0 < (lengthOctets content.length).length := by
    unfold lengthOctets
    split
    · exact Nat.one_pos
    · split
      · exact Nat.succ_pos _
      · split
        · exact Nat.succ_pos _
        · exact Nat.succ_pos _
  unfold encoding
  rw [List.length_cons, List.length_append]
  omega

theorem length_le_of_mem {tree : Tree} {trees : List Tree}
    (among : tree ∈ trees) :
    tree.content.length < (bytesAll trees).length := by
  have room := encoding_length tree.t tree.content
  induction trees with
  | nil => cases among
  | cons first rest ih =>
      rw [bytesAll, List.length_append]
      cases among with
      | head =>
          rw [bytes_eq]
          omega
      | tail _ behind =>
          have within := ih behind
          omega

end Tree

/-! ### Decoding one element -/

theorem compatOrd_zero (byte : UInt8) (rest : Bytes) :
    compatOrd (byte :: rest) 0 = .ok byte.toNat := rfl

theorem compatOrd_succ (byte : UInt8) (rest : Bytes) (index : Nat) :
    compatOrd (byte :: rest) (index + 1) = compatOrd rest index := rfl

/-- What is left of a loop round once the length is known. -/
def decodeContent (t : UInt8) (content : Bytes) (l : Nat) :
    Except PyError (List Element) := do
  let element ←
    (if t &&& constructed ≠ 0 then do
      .ok (Element.children t (← decode content))
    else primitive t content l)
  let others ← decode (content.drop l)
  .ok (element :: others)

theorem decode_definite {t : UInt8} {rest : Bytes} {first l c : Nat}
    (next : compatOrd rest 0 = .ok first)
    (definite : first ≠ 128)
    (length : readLength (t :: rest) (decide (t &&& constructed ≠ 0)) first =
      .ok (l, c)) :
    decode (t :: rest) = decodeContent t (rest.drop (1 + c)) l := by
  have skipped : (t :: rest).drop (2 + c) = rest.drop (1 + c) := by
    rw [show 2 + c = (1 + c) + 1 by omega, List.drop_succ_cons]
  have second : compatOrd (t :: rest) 1 = .ok first := next
  rw [decode]
  dsimp only
  rw [second, ok_bind, if_neg (fun both => definite both.2), ok_bind, length,
    ok_bind]
  dsimp only
  rw [skipped]
  unfold decodeContent
  simp only [decide_eq_true_eq, List.nil_append]

theorem readLength_short {n : Nat} (short : n < 256 ^ 2) (t : UInt8)
    (isConstructed : Bool) (rest : Bytes) :
    ∃ first c, compatOrd (lengthOctets n ++ rest) 0 = .ok first ∧
      first ≠ 128 ∧
      readLength (t :: (lengthOctets n ++ rest)) isConstructed first =
        .ok (n, c) ∧
      (lengthOctets n).length = 1 + c := by
  by_cases one : n < 128
  · have octet : (UInt8.ofNat n).toNat = n := by
      rw [UInt8.toNat_ofNat', Nat.mod_eq_of_lt (by omega)]
    have octets : lengthOctets n = [UInt8.ofNat n] := if_pos one
    refine ⟨n, 0, ?_, by omega, ?_, ?_⟩
    · rw [octets, List.singleton_append, compatOrd_zero, octet]
    · unfold readLength
      rw [if_neg (fun both => absurd both.2 (by omega)), if_neg (by omega)]
    · rw [octets]
      rfl
  · by_cases two : n < 256
    · have octets : lengthOctets n = [0x81, UInt8.ofNat n] := by
        unfold lengthOctets
        rw [if_neg one, if_pos two]
        rfl
      have octet : (UInt8.ofNat n).toNat = n := by
        rw [UInt8.toNat_ofNat', Nat.mod_eq_of_lt two]
      refine ⟨0x81, 1, ?_, by decide, ?_, ?_⟩
      · rw [octets]
        rfl
      · unfold readLength
        rw [if_neg (fun both => absurd both.2 (by decide)),
          if_pos (by decide), octets]
        change (do
          Except.ok (← compatOrd (t :: 0x81 :: UInt8.ofNat n :: rest) 2, 1)) = _
        rw [compatOrd_succ, compatOrd_succ, compatOrd_zero, octet, ok_bind]
      · rw [octets]
        rfl
    · have octets : lengthOctets n = 0x82 :: beBytes 2 n := by
        unfold lengthOctets
        rw [if_neg one, if_neg two, if_pos short]
      refine ⟨0x82, 2, ?_, by decide, ?_, ?_⟩
      · rw [octets]
        rfl
      · have field : cut (t :: (lengthOctets n ++ rest)) 2 4 =
            beBytes 2 n := by
          rw [octets]
          exact cut_append [t, 0x82] (beBytes 2 n) rest
        have value : unpackBe 2 (beBytes 2 n) = .ok n := by
          unfold unpackBe
          rw [if_pos (beBytes_length 2 n), beNat_beBytes short]
        unfold readLength
        rw [if_neg (fun both => absurd both.2 (by decide)),
          if_pos (by decide)]
        change (do Except.ok (← unpackBe 2 (cut _ 2 4), 2)) = _
        rw [field, value, ok_bind]
      · rw [octets]
        rfl

theorem decode_short {t : UInt8} {content behind : Bytes}
    (short : content.length < 256 ^ 2) :
    decode (encoding t content ++ behind) =
      decodeContent t (content ++ behind) content.length := by
  obtain ⟨first, c, next, definite, length, size⟩ :=
    readLength_short short t (decide (t &&& constructed ≠ 0))
      (content ++ behind)
  unfold encoding
  rw [List.cons_append, List.append_assoc,
    decode_definite next definite length, ← size, List.drop_left]

/-- Three length octets are read without the high bits, and one octet short. -/
theorem decode_long {t : UInt8} {content : Bytes}
    (long : 256 ^ 2 ≤ content.length) :
    ∃ octet l, l < 4096 ∧
      decode (encoding t content) = decodeContent t (octet :: content) l := by
  have octets : lengthOctets content.length =
      0x83 :: beBytes 3 content.length := by
    unfold lengthOctets
    rw [if_neg (by omega), if_neg (by omega), if_neg (by omega)]
  obtain ⟨high, middle, low, bytes⟩ : ∃ high middle low,
      beBytes 3 content.length = [high, middle, low] := ⟨_, _, _, rfl⟩
  have field : cut (t :: 0x83 :: high :: middle :: low :: content) 1 5 =
      [0x83, high, middle, low] := cut_append [t] [0x83, high, middle, low] content
  have value : unpackBe 4 [0x83, high, middle, low] =
      .ok (beNat [0x83, high, middle, low]) := if_pos rfl
  have length : readLength (t :: 0x83 :: high :: middle :: low :: content)
      (decide (t &&& constructed ≠ 0)) 0x83 =
        .ok (beNat [0x83, high, middle, low] &&& 0xfff, 2) := by
    unfold readLength
    rw [if_neg (fun both => absurd both.2 (by decide)), if_pos (by decide)]
    change (do Except.ok ((← unpackBe 4 (cut _ 1 5)) &&& 0xfff, 2)) = _
    rw [field, value, ok_bind]
  refine ⟨low, beNat [0x83, high, middle, low] &&& 0xfff, ?_, ?_⟩
  · rw [show (0xfff : Nat) = 2 ^ 12 - 1 by rfl,
      Nat.and_two_pow_sub_one_eq_mod]
    exact Nat.mod_lt _ (by decide)
  · have round := @decode_definite t
      (0x83 :: high :: middle :: low :: content) 0x83 _ 2 rfl (by decide) length
    unfold encoding
    rw [octets, bytes]
    exact round

theorem decode_ne_nil {buf : Bytes} {msg : List Element} (left : buf ≠ [])
    (decoded : decode buf = .ok msg) : msg ≠ [] := by
  cases buf with
  | nil => exact absurd rfl left
  | cons t rest =>
      rw [decode] at decoded
      obtain ⟨first, _next, decoded⟩ := bind_eq_ok.mp decoded
      obtain ⟨indefinite, _twice, decoded⟩ := bind_eq_ok.mp decoded
      obtain ⟨⟨l, c⟩, _length, decoded⟩ := bind_eq_ok.mp decoded
      obtain ⟨element, _content, decoded⟩ := bind_eq_ok.mp decoded
      obtain ⟨others, _rest, same⟩ := bind_eq_ok.mp decoded
      rw [Except.ok.injEq] at same
      rw [← same]
      exact List.append_ne_nil_of_right_ne_nil _ (List.cons_ne_nil _ _)

/-- A single element whose content takes three length octets is not decoded as
a single element: content is left over. -/
theorem decode_long_ne {t : UInt8} {content : Bytes} {element : Element}
    (long : 256 ^ 2 ≤ content.length) :
    decode (encoding t content) ≠ .ok [element] := by
  intro single
  obtain ⟨octet, l, low, round⟩ := @decode_long t content long
  rw [round] at single
  obtain ⟨first, _content, rest⟩ := bind_eq_ok.mp single
  obtain ⟨others, decoded, same⟩ := bind_eq_ok.mp rest
  rw [Except.ok.injEq, List.cons.injEq] at same
  have left : (octet :: content).drop l ≠ [] := by
    intro empty
    have bound := List.drop_eq_nil_iff.mp empty
    rw [List.length_cons] at bound
    omega
  exact decode_ne_nil left decoded same.2

/-! ### Decoding trees -/

theorem decodeContent_leaf {content behind : Bytes} {others : List Element}
    (decoded : decode behind = .ok others) :
    decodeContent octetString (content ++ behind) content.length =
      .ok (.bytes octetString content :: others) := by
  have value : primitive octetString (content ++ behind) content.length =
      .ok (.bytes octetString content) := by
    change Except.ok (Element.bytes octetString
      ((content ++ behind).take content.length)) = _
    rw [List.take_left]
  unfold decodeContent
  rw [if_neg (show ¬octetString &&& constructed ≠ 0 by decide), value, ok_bind,
    List.drop_left, decoded, ok_bind]

/-- The value of a constructed element is decoded from everything behind its
header. -/
theorem decodeContent_node {t : UInt8} {content behind : Bytes}
    {msg others : List Element} (isConstructed : t &&& constructed ≠ 0)
    (nested : decode (content ++ behind) = .ok msg)
    (decoded : decode behind = .ok others) :
    decodeContent t (content ++ behind) content.length =
      .ok (.children t msg :: others) := by
  unfold decodeContent
  rw [if_pos isConstructed, nested, ok_bind, ok_bind, List.drop_left, decoded,
    ok_bind]

theorem leaf_elements_iff (content : Bytes) {rest : List Tree}
    {others : List Element}
    (restIff : others = Tree.elements rest ↔ Tree.AllNestLast rest) :
    .bytes octetString content :: others =
        Tree.elements (.leaf content :: rest) ↔
      Tree.AllNestLast (.leaf content :: rest) := by
  rw [Tree.elements, Tree.AllNestLast, Tree.element, List.cons.injEq, restIff]
  constructor
  · intro same
    exact ⟨False.elim, trivial, same.2⟩
  · intro nested
    exact ⟨rfl, nested.2.2⟩

/-- A node takes the siblings behind it for children, so it is decoded to its
own children only if there are no siblings. -/
theorem node_elements_iff {t : UInt8} (isConstructed : t &&& constructed ≠ 0)
    {children rest : List Tree} {msg others : List Element}
    (count : msg.length = (children ++ rest).length)
    (allIff : msg = Tree.elements (children ++ rest) ↔
      Tree.AllNestLast (children ++ rest))
    (restIff : others = Tree.elements rest ↔ Tree.AllNestLast rest) :
    .children t msg :: others =
        Tree.elements (.node t isConstructed children :: rest) ↔
      Tree.AllNestLast (.node t isConstructed children :: rest) := by
  rw [Tree.elements, Tree.AllNestLast, Tree.element, List.cons.injEq, restIff,
    Element.children.injEq]
  constructor
  · intro same
    have alone : rest = [] := by
      have lengths := congrArg List.length same.1.2
      rw [count, Tree.elements_length, List.length_append] at lengths
      exact List.eq_nil_of_length_eq_zero (by omega)
    rw [alone, List.append_nil] at allIff
    exact ⟨fun _node => alone, allIff.mp same.1.2, same.2⟩
  · intro nested
    have alone := nested.1 trivial
    rw [alone, List.append_nil] at allIff
    exact ⟨⟨rfl, allIff.mpr nested.2.1⟩, nested.2.2⟩

/-- What `decode` returns for the encodings of siblings: every constructed
element takes its later siblings for further children of its own. -/
theorem decode_siblings {trees : List Tree}
    (short : ∀ tree ∈ trees, tree.content.length < 256 ^ 2) :
    ∃ msg, decode (Tree.bytesAll trees) = .ok msg ∧
      msg.length = trees.length ∧
      (msg = Tree.elements trees ↔ Tree.AllNestLast trees) := by
  -- the children and the siblings together are encoded in fewer bytes
  induction size : (Tree.bytesAll trees).length using Nat.strongRecOn
    generalizing trees with
  | ind bound ih =>
      cases trees with
      | nil =>
          refine ⟨[], ?_, rfl, ?_⟩
          · rw [Tree.bytesAll, decode]
          · exact iff_of_true rfl trivial
      | cons tree rest =>
          rw [List.forall_mem_cons] at short
          rw [Tree.bytesAll, Tree.bytes_eq, List.length_append] at size
          have room := Tree.encoding_length tree.t tree.content
          obtain ⟨others, decodedRest, sameCount, restIff⟩ :=
            ih (Tree.bytesAll rest).length (by omega) short.2 rfl
          rw [Tree.bytesAll, Tree.bytes_eq, decode_short short.1]
          cases tree with
          | leaf content =>
              refine ⟨.bytes octetString content :: others,
                decodeContent_leaf decodedRest, ?_, ?_⟩
              · rw [List.length_cons, sameCount, List.length_cons]
              · exact leaf_elements_iff content restIff
          | node t isConstructed children =>
              have inner : ∀ child ∈ children ++ rest,
                  child.content.length < 256 ^ 2 := by
                intro child member
                rcases List.mem_append.mp member with own | sibling
                · have within := Tree.length_le_of_mem own
                  have bounded := short.1
                  change (Tree.bytesAll children).length < 256 ^ 2 at bounded
                  omega
                · exact short.2 child sibling
              have smaller : (Tree.bytesAll (children ++ rest)).length <
                  bound := by
                rw [Tree.bytesAll_append, List.length_append]
                change (Tree.bytesAll children).length + 2 ≤ _ at room
                omega
              obtain ⟨msg, decodedAll, count, allIff⟩ :=
                ih _ smaller inner rfl
              rw [Tree.bytesAll_append] at decodedAll
              refine ⟨.children t msg :: others,
                decodeContent_node isConstructed decodedAll decodedRest,
                ?_, ?_⟩
              · rw [List.length_cons, sameCount, List.length_cons]
              · exact node_elements_iff isConstructed count allIff restIff

theorem decode_tree_of_short {tree : Tree}
    (short : tree.content.length < 256 ^ 2) :
    decode tree.bytes = .ok [tree.element] ↔ tree.NestsLast := by
  obtain ⟨msg, decoded, _count, sameIff⟩ :=
    @decode_siblings [tree] (List.forall_mem_singleton.mpr short)
  rw [Tree.bytesAll, Tree.bytesAll, List.append_nil] at decoded
  rw [decoded, Except.ok.injEq]
  rw [Tree.elements, Tree.elements, Tree.AllNestLast, Tree.AllNestLast]
    at sameIff
  rw [sameIff]
  constructor
  · intro nested
    exact nested.2.1
  · intro nested
    exact ⟨fun _node => rfl, nested, trivial⟩

/-- A tree comes back exactly when no length takes three octets and every
constructed element is the last child of its parent. -/
theorem decode_tree_iff (tree : Tree)
    (encodable : tree.content.length < 256 ^ 3) :
    decode tree.bytes = .ok [tree.element] ↔
      tree.content.length < 256 ^ 2 ∧ tree.NestsLast := by
  by_cases short : tree.content.length < 256 ^ 2
  · rw [decode_tree_of_short short]
    exact (and_iff_right short).symm
  · rw [Tree.bytes_eq]
    constructor
    · intro same
      exact absurd same (decode_long_ne (by omega))
    · intro impossible
      exact absurd impossible.1 short

/-- A sequence of an octet string and, behind it, a sequence of one. -/
def lastNested : Tree :=
  .node 0x30 (by decide)
    [.leaf [1], .node 0x30 (by decide) [.leaf [2, 3]]]

theorem lastNested_comes_back :
    decode lastNested.bytes = .ok [lastNested.element] :=
  (decode_tree_iff lastNested (by decide)).mpr
    ⟨by decide, ⟨False.elim, trivial, fun _node => rfl,
      ⟨False.elim, trivial, trivial⟩, trivial⟩⟩

/-- A sequence of an empty sequence and, behind it, an octet string. -/
def firstNested : Tree :=
  .node 0x30 (by decide) [.node 0x30 (by decide) [], .leaf []]

theorem octet_string_taken_in :
    ¬∀ tree : Tree, tree.content.length < 256 ^ 3 →
      decode tree.bytes = .ok [tree.element] := by
  intro always
  have nested := (decode_tree_of_short (by decide)).mp
    (always firstNested (by decide))
  exact List.cons_ne_nil _ _ (nested.1 trivial)

/-- The least number of content octets, read as unsigned. -/
def integerWidth (n : Nat) : Nat :=
  if n < 256 then 1
  else if n < 256 ^ 2 then 2
  else if n < 256 ^ 3 then 3
  else 4

def encodedInteger (n : UInt32) : Bytes :=
  encoding integer (beBytes (integerWidth n.toNat) n.toNat)

def integerElement (n : UInt32) : Element :=
  .integer integer n.toNat

theorem integerWidth_lt (n : Nat) : integerWidth n < 5 := by
  unfold integerWidth
  split
  · decide
  · split
    · decide
    · split
      · decide
      · decide

theorem integerWidth_eq_three {n : Nat} :
    integerWidth n = 3 ↔ 2 ^ 16 ≤ n ∧ n < 2 ^ 24 := by
  unfold integerWidth
  constructor
  · intro three
    split at three
    · cases three
    · split at three
      · cases three
      · split at three
        · omega
        · cases three
  · intro range
    have fits : n < 256 ^ 3 := by omega
    rw [if_neg (by omega), if_neg (by omega), if_pos fits]

/-! ### Reading one integer -/

theorem unpackBe_front {width n : Nat} (fits : n < 256 ^ width)
    (behind : Bytes) :
    unpackBe width (cut (beBytes width n ++ behind) 0 width) = .ok n := by
  have content : cut (beBytes width n ++ behind) 0 width = beBytes width n :=
    cut_front (beBytes_length width n) behind
  rw [content, unpackBe_beBytes fits]

theorem readInteger_two (buf : Bytes) :
    readInteger buf 2 = unpackBe 2 (cut buf 0 2) := rfl

theorem readInteger_four (buf : Bytes) :
    readInteger buf 4 = unpackBe 4 (cut buf 0 4) := rfl

/-- Three octets are read with the octet behind them, which is shifted out. -/
theorem readInteger_three {n : Nat} (fits : n < 256 ^ 3) (octet : UInt8)
    (behind : Bytes) :
    readInteger (beBytes 3 n ++ octet :: behind) 3 = .ok n := by
  have content : cut (beBytes 3 n ++ octet :: behind) 0 4 =
      beBytes 3 n ++ [octet] :=
    cut_append [] (beBytes 3 n ++ [octet]) behind
  have octets : (beBytes 3 n ++ [octet]).length = 4 := rfl
  have shifted : beNat (beBytes 3 n ++ [octet]) >>> 8 = n := by
    have low := octet.toNat_lt
    rw [beNat_snoc, beNat_beBytes fits, Nat.shiftRight_eq_div_pow]
    omega
  change (do
    Except.ok ((← unpackBe 4 (cut (beBytes 3 n ++ octet :: behind) 0 4)) >>> 8))
      = _
  unfold unpackBe
  rw [content, if_pos octets, ok_bind, shifted]

/-- At the end of the buffer there is no octet behind the three. -/
theorem readInteger_three_alone (n : Nat) :
    readInteger (beBytes 3 n) 3 = .error .structError := rfl

/-- Every integer is read from its shortest encoding, unless it takes three
octets and nothing is behind them. -/
theorem readInteger_width {n : Nat} (fits : n < 2 ^ 32) (behind : Bytes) :
    readInteger (beBytes (integerWidth n) n ++ behind) (integerWidth n) =
      if integerWidth n = 3 ∧ behind = [] then .error .structError
      else .ok n := by
  by_cases one : n < 256
  · have width : integerWidth n = 1 := if_pos one
    rw [width, if_neg (fun both => absurd both.1 (by decide))]
    change Except.ok (UInt8.ofNat n).toNat = _
    rw [count_toNat one]
  · by_cases two : n < 256 ^ 2
    · have width : integerWidth n = 2 := by
        unfold integerWidth
        rw [if_neg one, if_pos two]
      rw [width, if_neg (fun both => absurd both.1 (by decide)),
        readInteger_two, unpackBe_front two]
    · by_cases three : n < 256 ^ 3
      · have width : integerWidth n = 3 :=
          integerWidth_eq_three.mpr ⟨by omega, three⟩
        rw [width]
        cases behind with
        | nil =>
            rw [if_pos ⟨rfl, rfl⟩, List.append_nil, readInteger_three_alone]
        | cons octet behind =>
            rw [if_neg (fun both => List.cons_ne_nil _ _ both.2),
              readInteger_three three]
      · have width : integerWidth n = 4 := by
          unfold integerWidth
          rw [if_neg one, if_neg two, if_neg three]
        rw [width, if_neg (fun both => absurd both.1 (by decide)),
          readInteger_four, unpackBe_front fits]

/-! ### Decoding the list -/

theorem primitive_integer (buf : Bytes) (l : Nat) :
    primitive integer buf l =
      (do .ok (Element.integer 2 (← readInteger buf l))) := rfl

theorem decode_encodedInteger (n : UInt32) (behind : Bytes) :
    decode (encodedInteger n ++ behind) =
      (if integerWidth n.toNat = 3 ∧ behind = [] then .error .structError
      else do .ok (integerElement n :: (← decode behind))) := by
  have octets : (beBytes (integerWidth n.toNat) n.toNat).length =
      integerWidth n.toNat := beBytes_length _ _
  have narrow := integerWidth_lt n.toNat
  have value := readInteger_width n.toNat_lt behind
  have skipped : (beBytes (integerWidth n.toNat) n.toNat ++ behind).drop
      (integerWidth n.toNat) = behind := List.drop_left' octets
  unfold encodedInteger
  rw [decode_short (by omega), octets]
  unfold decodeContent
  rw [if_neg (show ¬integer &&& constructed ≠ 0 by decide), primitive_integer,
    value, skipped]
  split
  · rfl
  · rfl

theorem encodedInteger_append_ne_nil (n : UInt32) (behind : Bytes) :
    encodedInteger n ++ behind ≠ [] :=
  List.cons_ne_nil _ _

theorem decode_last_iff (n : UInt32) :
    decode (encodedInteger n ++ []) = .ok [integerElement n] ↔
      ¬(2 ^ 16 ≤ n.toNat ∧ n.toNat < 2 ^ 24) := by
  rw [decode_encodedInteger, ← integerWidth_eq_three]
  by_cases three : integerWidth n.toNat = 3
  · rw [if_pos ⟨three, rfl⟩]
    exact iff_of_false (fun same => by cases same) (fun other => other three)
  · rw [if_neg (fun both => three both.1), decode, ok_bind]
    exact iff_of_true rfl three

/-- The list comes back exactly when its last integer does not take three
octets. -/
theorem decode_integers_iff (ns : List UInt32) :
    decode (ns.flatMap encodedInteger) = .ok (ns.map integerElement) ↔
      ∀ last ∈ ns.getLast?, ¬(2 ^ 16 ≤ last.toNat ∧ last.toNat < 2 ^ 24) := by
  induction ns with
  | nil =>
      refine iff_of_true ?_ (fun last none => by cases none)
      rw [List.flatMap_nil, decode, List.map_nil]
  | cons n rest ih =>
      rw [List.flatMap_cons, List.map_cons]
      cases rest with
      | nil =>
          rw [List.getLast?_singleton, List.flatMap_nil, List.map_nil,
            decode_last_iff]
          constructor
          · intro wide last same
            rw [Option.mem_some] at same
            rw [← same]
            exact wide
          · intro all
            exact all n rfl
      | cons next rest =>
          have left : (next :: rest).flatMap encodedInteger ≠ [] := by
            rw [List.flatMap_cons]
            exact encodedInteger_append_ne_nil next _
          rw [List.getLast?_cons_cons, ← ih, decode_encodedInteger,
            if_neg (fun both => left both.2)]
          constructor
          · intro decoded
            obtain ⟨others, behind, same⟩ := bind_eq_ok.mp decoded
            rw [Except.ok.injEq, List.cons.injEq] at same
            rw [behind, same.2]
          · intro behind
            rw [behind, ok_bind]

/-- An integer of three octets at the end of the buffer is not decoded. -/
theorem three_octets_not_decoded :
    ¬∀ ns : List UInt32,
      decode (ns.flatMap encodedInteger) = .ok (ns.map integerElement) := by
  intro always
  have last := always [65536]
  rw [List.flatMap_cons, List.flatMap_nil] at last
  exact (decode_last_iff 65536).mp last (by decide)

end DpktNg.Asn1
