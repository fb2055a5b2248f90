/-
The AS_PATH attribute of dpkt/bgp.py: lists of segments with two-octet AS
numbers, and what `ASPath` makes of their encoding.  An attribute of six bytes
is read with four-octet numbers.
-/

import DpktNg.Bgp.Message

namespace DpktNg.Bgp

open Library

/-- A path segment: its type, and as many numbers as one octet counts. -/
structure AsSegment where
  type : UInt8
  numbers : List UInt16
  short : numbers.length < 256

def encodeNumbers (numbers : List UInt16) : Bytes :=
  numbers.flatMap fun number => beBytes 2 number.toNat

def AsSegment.encode (segment : AsSegment) : Bytes :=
  segment.type :: UInt8.ofNat segment.numbers.length ::
    encodeNumbers segment.numbers

def encodePath (segments : List AsSegment) : Bytes :=
  segments.flatMap AsSegment.encode

/-- The segment as `ASPath` should return it. -/
def AsSegment.decoded (segment : AsSegment) : AsPathSegment where
  type := segment.type.toNat
  len := segment.numbers.length
  path := segment.numbers.map UInt16.toNat
  wide := false

theorem encodeNumbers_length (numbers : List UInt16) :
    (encodeNumbers numbers).length = 2 * numbers.length := by
  induction numbers with
  | nil => rfl
  | cons number rest ih =>
      unfold encodeNumbers at ih ⊢
      rw [List.flatMap_cons, List.length_append, beBytes_length, ih,
        List.length_cons]
      omega

theorem AsSegment.encode_length (segment : AsSegment) :
    segment.encode.length = 2 + 2 * segment.numbers.length := by
  unfold AsSegment.encode
  rw [List.length_cons, List.length_cons, encodeNumbers_length]
  omega

theorem asNumbers_encode (numbers : List UInt16) (rest : Bytes) :
    asNumbers numbers.length (encodeNumbers numbers ++ rest) =
      .ok (numbers.map UInt16.toNat) := by
  induction numbers with
  | nil => rfl
  | cons number others ih =>
      have width : (beBytes 2 number.toNat).length = 2 := beBytes_length 2 _
      have split : encodeNumbers (number :: others) ++ rest =
          beBytes 2 number.toNat ++ (encodeNumbers others ++ rest) := by
        unfold encodeNumbers
        rw [List.flatMap_cons, List.append_assoc]
      have read : unpackBe 2 (beBytes 2 number.toNat) = .ok number.toNat := by
        unfold unpackBe
        rw [if_pos width, beNat_beBytes number.toNat_lt]
      rw [List.length_cons, asNumbers, split, List.take_left' width,
        List.drop_left' width, read, ok_bind, ih, ok_bind, List.map_cons]

theorem asPathSegment_parses (segment : AsSegment) :
    Parses asPathSegment AsPathSegment.size segment.encode segment.decoded where
  parsed := by
    intro rest
    have split : segment.encode ++ rest =
        [segment.type, UInt8.ofNat segment.numbers.length] ++
          (encodeNumbers segment.numbers ++ rest) := rfl
    unfold asPathSegment
    rw [packetInit_eq_ok, split, takeHeader_append 2 rfl, ok_bind]
    dsimp only
    rw [show beNat (cut [segment.type, UInt8.ofNat segment.numbers.length] 1 2)
        = segment.numbers.length from
      (beNat_singleton _).trans (count_toNat segment.short),
      asNumbers_encode, ok_bind]
    congr 2
    exact beNat_singleton _
  size_eq := by
    rw [AsSegment.encode_length]
    unfold AsPathSegment.size AsSegment.decoded
    rw [List.length_map]
    rfl

theorem asPathSegment4_parses {segment : AsSegment}
    (empty : segment.numbers = []) :
    Parses asPathSegment4 AsPathSegment.size segment.encode
      { segment.decoded with wide := true } where
  parsed := by
    intro rest
    unfold AsSegment.encode AsSegment.decoded
    rw [empty]
    have split : segment.type :: UInt8.ofNat ([] : List UInt16).length ::
        encodeNumbers [] ++ rest = [segment.type, 0] ++ rest := rfl
    unfold asPathSegment4
    rw [packetInit_eq_ok, split, takeHeader_append 2 rfl, ok_bind]
    dsimp only
    rw [show beNat (cut [segment.type, 0] 0 1) = segment.type.toNat from
      beNat_singleton _]
    rfl
  size_eq := by
    rw [AsSegment.encode_length]
    unfold AsPathSegment.size AsSegment.decoded
    rw [empty]
    rfl

theorem joinBytes_numbers (numbers : List UInt16) :
    joinBytes (packBe 2) (numbers.map UInt16.toNat) =
      .ok (encodeNumbers numbers) := by
  induction numbers with
  | nil => rfl
  | cons number rest ih =>
      have packed : packBe 2 number.toNat = .ok (beBytes 2 number.toNat) :=
        if_pos number.toNat_lt
      rw [List.map_cons, joinBytes, packed, ok_bind, ih, ok_bind]
      rfl

theorem AsSegment.header_packs (segment : AsSegment) :
    packHdr [(1, segment.type.toNat), (1, segment.numbers.length)] =
      .ok [segment.type, UInt8.ofNat segment.numbers.length] := by
  have packed := packHdr_two segment.type (UInt8.ofNat segment.numbers.length)
  rw [count_toNat segment.short] at packed
  exact packed

theorem AsSegment.decoded_bytes (segment : AsSegment) :
    segment.decoded.bytes = .ok segment.encode := by
  unfold AsPathSegment.bytes AsSegment.decoded
  dsimp only
  rw [if_neg Bool.false_ne_true, joinBytes_numbers, ok_bind,
    segment.header_packs, ok_bind]
  rfl

theorem AsSegment.wide_bytes {segment : AsSegment}
    (empty : segment.numbers = []) :
    AsPathSegment.bytes { segment.decoded with wide := true } =
      .ok segment.encode := by
  have packed := segment.header_packs
  unfold AsPathSegment.bytes AsSegment.decoded AsSegment.encode
  rw [empty] at packed ⊢
  dsimp only
  rw [List.map_nil, joinBytes, ok_bind, packed, ok_bind]
  rfl

theorem encodePath_flatten (segments : List AsSegment) :
    encodePath segments = (segments.map AsSegment.encode).flatten := by
  unfold encodePath
  rw [List.flatMap_def]

theorem asPath_decodes {segments : List AsSegment}
    (decode : AsSegment → AsPathSegment)
    (parses : ∀ segment ∈ segments,
      Parses (if (encodePath segments).length = 6 then asPathSegment4
        else asPathSegment) AsPathSegment.size segment.encode (decode segment))
    (bytes : ∀ segment ∈ segments,
      (decode segment).bytes = .ok segment.encode) :
    asPath (encodePath segments) = .ok (.asPath (segments.map decode)) ∧
      (AttributeValue.asPath (segments.map decode)).bytes =
        .ok (encodePath segments) := by
  constructor
  · unfold asPath
    rw [packetInit_eq_ok]
    dsimp only
    generalize (if (encodePath segments).length = 6 then asPathSegment4
      else asPathSegment) = parse at parses ⊢
    have chunks : List.Forall₂ (Parses parse AsPathSegment.size)
        (segments.map AsSegment.encode) (segments.map decode) := by
      rw [List.forall₂_map_left_iff, List.forall₂_map_right_iff,
        List.forall₂_same]
      exact parses
    rw [encodePath_flatten, parseAll_flatten chunks, ok_bind]
  · have chunks : List.Forall₂
        (fun chunk item => AsPathSegment.bytes item = .ok chunk)
        (segments.map AsSegment.encode) (segments.map decode) := by
      rw [List.forall₂_map_left_iff, List.forall₂_map_right_iff,
        List.forall₂_same]
      exact bytes
    rw [encodePath_flatten]
    exact joinBytes_chunks chunks

theorem asPathSegment4_within {data : Bytes} {item : AsPathSegment}
    (parsed : asPathSegment4 data = .ok item) :
    item.wide = true ∧ item.size ≤ data.length := by
  have numbers : ∀ count behind,
      4 * (wideAsNumbers count behind).length ≤ behind.length := by
    intro count
    induction count with
    | zero => intro behind; exact Nat.zero_le _
    | succ count ih =>
        intro behind
        rw [wideAsNumbers]
        by_cases enough : behind.length ≥ 4
        · have rest := ih (behind.drop 4)
          rw [List.length_drop] at rest
          rw [if_pos enough, List.length_cons]
          omega
        · rw [if_neg enough]
          exact ih behind
  unfold asPathSegment4 at parsed
  rw [packetInit_eq_ok] at parsed
  obtain ⟨⟨header, rest⟩, split, done⟩ := bind_eq_ok.mp parsed
  obtain ⟨enough, _header, behind⟩ := takeHeader_eq_ok.mp split
  dsimp only at done
  rw [Except.ok.injEq] at done
  have bound := numbers (beNat (cut header 1 2)) rest
  rw [behind, List.length_drop] at bound
  rw [← done]
  refine ⟨rfl, ?_⟩
  unfold AsPathSegment.size
  dsimp only
  rw [if_pos rfl, behind]
  omega

theorem zeros_of_sums {counts : List Nat}
    (same : (counts.map fun count => 2 + 4 * count).sum =
      (counts.map fun count => 2 + 2 * count).sum) :
    ∀ count ∈ counts, count = 0 := by
  have doubled : (counts.map fun count => 2 + 4 * count).sum =
      (counts.map fun count => 2 + 2 * count).sum + 2 * counts.sum := by
    clear same
    induction counts with
    | nil => rfl
    | cons count rest ih =>
        rw [List.map_cons, List.map_cons, List.sum_cons, List.sum_cons,
          List.sum_cons, ih]
        omega
  have none_ : counts.sum = 0 := by omega
  intro count member
  exact List.sum_eq_zero_iff.mp none_ count member

/-- The type and the numbers of a decoded segment. -/
def AsPathSegment.content (segment : AsPathSegment) : Nat × List Nat :=
  (segment.type, segment.path)

def AsSegment.content (segment : AsSegment) : Nat × List Nat :=
  (segment.type.toNat, segment.numbers.map UInt16.toNat)

/-- `ASPath` returns the segments in order, and writes the same bytes again. -/
def PathComesBack (segments : List AsSegment) : Prop :=
  ∃ decoded, asPath (encodePath segments) = .ok (.asPath decoded) ∧
    decoded.map AsPathSegment.content = segments.map AsSegment.content ∧
    (AttributeValue.asPath decoded).bytes = .ok (encodePath segments)

theorem path_comes_back {segments : List AsSegment}
    (decode : AsSegment → AsPathSegment)
    (content : ∀ segment, (decode segment).content = segment.content)
    (decodes : asPath (encodePath segments) =
        .ok (.asPath (segments.map decode)) ∧
      (AttributeValue.asPath (segments.map decode)).bytes =
        .ok (encodePath segments)) :
    PathComesBack segments := by
  refine ⟨segments.map decode, decodes.1, ?_, decodes.2⟩
  rw [List.map_map]
  exact List.map_congr_left fun segment _member => content segment

/-- Six bytes with four-octet numbers hold fewer numbers. -/
theorem empty_of_comes_back {segments : List AsSegment}
    (six : (encodePath segments).length = 6)
    (back : PathComesBack segments) :
    ∀ segment ∈ segments, segment.numbers = [] := by
  obtain ⟨decoded, parsed, same, _bytes⟩ := back
  unfold asPath at parsed
  rw [packetInit_eq_ok] at parsed
  dsimp only at parsed
  rw [if_pos six] at parsed
  obtain ⟨items, walked, done⟩ := bind_eq_ok.mp parsed
  cases done
  have total := parseAll_sizes
    (fun _data _item read => (asPathSegment4_within read).2) walked
  have wide := parseAll_forall
    (fun _data _item read => (asPathSegment4_within read).1) walked
  have counts : decoded.map (fun segment => segment.path.length) =
      segments.map fun segment => segment.numbers.length := by
    have lengths := congrArg
      (List.map fun content : Nat × List Nat => content.2.length) same
    rw [List.map_map, List.map_map] at lengths
    apply lengths.trans
    apply List.map_congr_left
    intro segment _member
    exact List.length_map _
  have sizes : decoded.map AsPathSegment.size =
      (segments.map fun segment => segment.numbers.length).map
        fun count => 2 + 4 * count := by
    rw [← counts, List.map_map]
    apply List.map_congr_left
    intro segment member
    unfold AsPathSegment.size
    rw [if_pos (wide segment member)]
    rfl
  have lengths : (encodePath segments).length =
      ((segments.map fun segment => segment.numbers.length).map
        fun count => 2 + 2 * count).sum := by
    rw [encodePath, List.length_flatMap, List.map_map]
    congr 1
    apply List.map_congr_left
    intro segment _member
    exact segment.encode_length
  rw [sizes, lengths] at total
  intro segment member
  have none_ := zeros_of_sums total _ (List.mem_map_of_mem member)
  exact List.eq_nil_of_length_eq_zero none_

/-- A path comes back unless it has six bytes, of which some are numbers. -/
theorem path_comes_back_iff (segments : List AsSegment) :
    PathComesBack segments ↔
      ((encodePath segments).length = 6 →
        ∀ segment ∈ segments, segment.numbers = []) := by
  constructor
  · intro back six
    exact empty_of_comes_back six back
  · intro short
    by_cases six : (encodePath segments).length = 6
    · have empty := short six
      refine path_comes_back
        (fun segment => { segment.decoded with wide := true })
        (fun _segment => rfl) (asPath_decodes _ ?_ ?_)
      · intro segment member
        rw [if_pos six]
        exact asPathSegment4_parses (empty segment member)
      · intro segment member
        exact AsSegment.wide_bytes (empty segment member)
    · refine path_comes_back AsSegment.decoded (fun _segment => rfl)
        (asPath_decodes _ ?_ ?_)
      · intro segment _member
        rw [if_neg six]
        exact asPathSegment_parses segment
      · intro segment _member
        exact segment.decoded_bytes

/-- An AS_SEQUENCE of two numbers: the segment read has one. -/
theorem two_numbers_do_not_come_back :
    ¬ ∀ segments : List AsSegment, PathComesBack segments := by
  intro always
  have empty := empty_of_comes_back rfl
    (always [{ type := 2, numbers := [1, 2], short := by decide }])
  cases empty _ (List.mem_singleton.mpr rfl)

end DpktNg.Bgp
