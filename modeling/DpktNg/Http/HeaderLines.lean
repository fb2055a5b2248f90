/-
Header lines.  What `parse_headers` takes from ASCII lines are keys and values
of a certain form, and such a key and value, printed on a line of their own,
are read as they were.
-/

import DpktNg.Http.Message

namespace DpktNg.Http

open Library

/-- What the parser makes of the part of a line in front of the colon. -/
structure IsKey (k : PyStr) : Prop where
  ascii : IsAscii k
  oneWord : (splitText k).length = 1
  lower : lowerText k = k
  noColon : ':' ∉ k
  oneLine : '\n' ∉ k
  front : SolidFront isLineSpace k

/-- What the parser makes of the part behind it. -/
structure IsValue (v : PyStr) : Prop where
  ascii : IsAscii v
  oneLine : '\n' ∉ v
  front : SolidFront isStrSpace v
  back : SolidBack isLineSpace v

theorem IsKey.present {k : PyStr} (key : IsKey k) : k ≠ [] := by
  intro empty
  have oneWord := key.oneWord
  rw [empty] at oneWord
  revert oneWord
  decide

theorem IsValue.nil : IsValue [] where
  ascii := List.forall_mem_nil _
  oneLine := List.not_mem_nil
  front := fun _ first => by cases first
  back := fun _ last => by cases last

/-- A line of ASCII text, stripped. -/
structure IsLine (line : PyStr) : Prop where
  ascii : IsAscii line
  oneLine : '\n' ∉ line
  front : SolidFront isLineSpace line
  back : SolidBack isLineSpace line

theorem splitColon_name (line : PyStr) :
    (splitColon line).1 <+: line ∧ ':' ∉ (splitColon line).1 := by
  unfold splitColon
  split
  · rename_i none
    refine ⟨List.prefix_rfl, ?_⟩
    intro member
    have other := List.dropWhile_eq_nil_iff.mp none ':' member
    revert other
    decide
  · refine ⟨List.takeWhile_prefix _, ?_⟩
    intro member
    have other := List.mem_takeWhile_imp member
    revert other
    decide

theorem splitColon_behind {line behind : PyStr}
    (found : (splitColon line).2 = some behind) : behind <:+ line := by
  unfold splitColon at found
  split at found
  · cases found
  · rename_i colon rest cut
    rw [Option.some.injEq] at found
    rw [← found]
    have suffix := List.dropWhile_suffix (· != ':') (l := line)
    rw [cut] at suffix
    exact (List.suffix_cons colon rest).trans suffix

theorem splitColon_append {k behind : PyStr} (noColon : ':' ∉ k) :
    splitColon (k ++ ':' :: behind) = (k, some behind) := by
  have others : ∀ c ∈ k, (c != ':') = true := by
    intro c member
    rw [bne_iff_ne]
    intro same
    rw [same] at member
    exact noColon member
  have stops : ¬((':' : Char) != ':') = true := by decide
  unfold splitColon
  rw [List.dropWhile_append_of_pos others,
    @List.dropWhile_cons_of_neg _ (· != ':') _ _ stops,
    List.takeWhile_append_of_pos others,
    @List.takeWhile_cons_of_neg _ (· != ':') _ _ stops, List.append_nil]

theorem isStrSpace_toLower (c : Char) :
    isStrSpace c.toLower = isStrSpace c := by
  by_cases ascii : c.toNat < 0x80
  · exact (toLower_ascii ascii).2.2.1
  · have same : c.toLower = c := by
      unfold Char.toLower
      rw [dif_neg]
      intro upper
      have high : c.val.toNat ≤ 90 := upper.2
      exact ascii (by unfold Char.toNat; omega)
    rw [same]

theorem splitText_lower (text : PyStr) :
    (splitText (lowerText text)).length = (splitText text).length := by
  have same : isStrSpace ∘ Char.toLower = isStrSpace :=
    funext isStrSpace_toLower
  unfold splitText lowerText words
  rw [wordsUpTo_map, same, List.length_map, List.length_map]

theorem lowerText_isKey {name : PyStr} (ascii : IsAscii name)
    (oneWord : (splitText name).length = 1) (noColon : ':' ∉ name)
    (oneLine : '\n' ∉ name) (front : SolidFront isLineSpace name) :
    IsKey (lowerText name) := by
  obtain ⟨colon, lineFeed, solid⟩ := lowerText_marks ascii
  refine ⟨ascii.lower, ?_, lowerText_lower ascii, ?_, ?_, solid front⟩
  · rw [splitText_lower, oneWord]
  · exact fun member => noColon (colon member)
  · exact fun member => oneLine (lineFeed member)

theorem IsLine.isValue {line v : PyStr} (isLine : IsLine line)
    (suffix : v <:+ line) (front : SolidFront isStrSpace v) : IsValue v := by
  refine ⟨isLine.ascii.subset suffix.subset, ?_, front,
    isLine.back.suffix suffix⟩
  intro member
  exact isLine.oneLine (suffix.subset member)

theorem headerOfLine_isKey {line k v : PyStr} (isLine : IsLine line)
    (found : headerOfLine line = .ok (k, v)) : IsKey k ∧ IsValue v := by
  obtain ⟨namePrefix, noColon⟩ := splitColon_name line
  unfold headerOfLine at found
  dsimp only at found
  split at found
  · cases found
  · rename_i oneWord
    rw [not_not] at oneWord
    rw [Except.ok.injEq, Prod.mk.injEq] at found
    obtain ⟨isKey, isValue⟩ := found
    have oneLine : '\n' ∉ (splitColon line).1 :=
      fun member => isLine.oneLine (namePrefix.subset member)
    rw [← isKey, ← isValue]
    refine ⟨lowerText_isKey (isLine.ascii.subset namePrefix.subset) oneWord
      noColon oneLine (isLine.front.prefix_ namePrefix), ?_⟩
    cases behindColon : (splitColon line).2 with
    | none => exact IsValue.nil
    | some behind =>
        have suffix := splitColon_behind behindColon
        exact isLine.isValue ((List.dropWhile_suffix isStrSpace).trans suffix)
          (dropWhile_solidFront behind)

/-- The stripped line of a key and a value. -/
def strippedHeader (k v : PyStr) : PyStr :=
  k ++ ':' :: (if v = [] then [] else ' ' :: v)

theorem headerOfLine_stripped {k v : PyStr} (key : IsKey k)
    (value : IsValue v) :
    headerOfLine (strippedHeader k v) = .ok (k, v) := by
  have split := @splitColon_append k (if v = [] then [] else ' ' :: v)
    key.noColon
  have stripped : (if v = [] then [] else ' ' :: v).dropWhile isStrSpace =
      v := by
    by_cases empty : v = []
    · rw [if_pos empty, empty]
      rfl
    · rw [if_neg empty, List.dropWhile_cons_of_pos (by decide),
        dropWhile_eq_self value.front]
  unfold headerOfLine strippedHeader
  rw [split]
  dsimp only
  rw [if_neg (not_not.mpr key.oneWord), key.lower, stripped]

theorem headerLine_isLine {f : Bytes}
    (ascii : ∀ byte ∈ (readline f).1, byte < 0x80) : IsLine (headerLine f) := by
  have stripAscii : ∀ byte ∈ stripBytes (readline f).1, byte < 0x80 := by
    intro byte member
    exact ascii byte ((trim_isInfix (readline f).1).subset member)
  have again := map_decodeAscii stripAscii
  refine ⟨decodeAscii_isAscii _, ?_, ?_, ?_⟩
  · intro member
    have lineFeed : (0x0a : UInt8) ∈ stripBytes (readline f).1 := by
      rw [← again]
      exact List.mem_map_of_mem (f := asciiByte) member
    exact lineFeed_not_mem_strip f lineFeed
  · have solid := @trim_solidFront _ isSpaceByte (readline f).1
    change SolidFront isSpaceByte (stripBytes (readline f).1) at solid
    rw [← again, solidFront_map] at solid
    exact solid
  · have solid := @trim_solidBack _ isSpaceByte (readline f).1
    change SolidBack isSpaceByte (stripBytes (readline f).1) at solid
    rw [← again, solidBack_map] at solid
    exact solid

theorem printed_ascii {k v : PyStr} (key : IsKey k) (value : IsValue v) :
    IsAscii (k ++ [':', ' '] ++ v) ∧ '\n' ∉ k ++ [':', ' '] ++ v := by
  have separator : IsAscii [':', ' '] := by
    unfold IsAscii
    rw [List.forall_mem_cons, List.forall_mem_singleton]
    decide
  refine ⟨(key.ascii.append separator).append value.ascii, ?_⟩
  rw [List.mem_append, List.mem_append]
  rintro ((inKey | inSeparator) | inValue)
  · exact key.oneLine inKey
  · revert inSeparator
    decide
  · exact value.oneLine inValue

theorem headerLine_printed {k v : PyStr} (key : IsKey k) (value : IsValue v)
    (behind : Bytes) :
    headerLine ((headerText (k, .one v)).map asciiByte ++ behind) =
        strippedHeader k v ∧
      (readline ((headerText (k, .one v)).map asciiByte ++ behind)).2 =
        behind := by
  obtain ⟨ascii, oneLine⟩ := printed_ascii key value
  have line := readline_text ascii oneLine behind
  have printed : headerText (k, .one v) =
      k ++ [':', ' '] ++ v ++ ['\r', '\n'] := rfl
  rw [printed]
  unfold headerLine
  rw [line]
  refine ⟨?_, rfl⟩
  have front := key.front.append key.present
  unfold strippedHeader
  by_cases empty : v = []
  · -- the blank behind the colon is stripped as well
    have back : SolidBack isLineSpace [':'] := by
      intro c last
      rw [List.getLast?_singleton, Option.mem_some_iff] at last
      rw [← last]
      decide
    have stripped := @stripBytes_text (k ++ [':']) [' ', '\r', '\n']
      (front _) (back.append (List.cons_ne_nil _ _) k)
      (List.append_ne_nil_of_left_ne_nil key.present _)
      (List.forall_mem_cons.mpr ⟨by decide, lineEnd_isLineSpace⟩)
    have nameAscii : IsAscii (k ++ [':']) := by
      apply key.ascii.append
      unfold IsAscii
      rw [List.forall_mem_singleton]
      decide
    have split : k ++ [':', ' '] ++ v ++ ['\r', '\n'] =
        k ++ [':'] ++ [' ', '\r', '\n'] := by
      rw [empty]
      simp only [List.append_assoc, List.append_nil]
      rfl
    rw [if_pos empty, split, stripped, decodeAscii_map nameAscii]
  · have stripped := @stripBytes_text (k ++ [':', ' '] ++ v) ['\r', '\n']
      (by rw [List.append_assoc]; exact front _)
      (value.back.append empty _)
      (List.append_ne_nil_of_right_ne_nil _ empty) lineEnd_isLineSpace
    rw [if_neg empty, stripped, decodeAscii_map ascii, List.append_assoc]
    rfl

theorem parseHeaders_end {d : Headers} {f : Bytes} (blank : headerLine f = []) :
    parseHeaders d f = .ok (d, (readline f).2) := by
  rw [parseHeaders, if_pos blank]

theorem parseHeaders_line {d : Headers} {f : Bytes} {k v : PyStr}
    (present : headerLine f ≠ [])
    (found : headerOfLine (headerLine f) = .ok (k, v)) :
    parseHeaders d f = parseHeaders (addHeader d k v) (readline f).2 := by
  rw [parseHeaders, if_neg present, found, ok_bind]

def headerSection (f : Bytes) : Bytes :=
  if headerLine f = [] then (readline f).1
  else (readline f).1 ++ headerSection (readline f).2
termination_by f.length
decreasing_by exact readline_shorter (by assumption)

def HeaderValue.values : HeaderValue → List PyStr
  | .one value => [value]
  | .many values => values

/-- All keys and values are as the parser makes them. -/
def WellFormed (d : Headers) : Prop :=
  ∀ entry ∈ d.entries, IsKey entry.1 ∧ ∀ v ∈ entry.2.values, IsValue v

theorem wellFormed_set {d : Headers} (wellFormed : WellFormed d) {k : PyStr}
    {value : HeaderValue} (key : IsKey k)
    (values : ∀ v ∈ value.values, IsValue v) : WellFormed (d.set k value) := by
  intro entry member
  rw [Dict.mem_set] at member
  rcases member with rfl | ⟨old, -⟩
  · exact ⟨key, values⟩
  · exact wellFormed entry old

theorem wellFormed_addHeader {d : Headers} (wellFormed : WellFormed d)
    {k v : PyStr} (key : IsKey k) (value : IsValue v) :
    WellFormed (addHeader d k v) := by
  unfold addHeader
  split
  · rename_i values found
    have before := (wellFormed _ (Dict.get?_eq_some.mp found)).2
    apply wellFormed_set wellFormed key
    intro w member
    rcases List.mem_append.mp member with old | new
    · exact before w old
    · rw [List.mem_singleton.mp new]
      exact value
  · rename_i other found
    have before := (wellFormed _ (Dict.get?_eq_some.mp found)).2
    apply wellFormed_set wellFormed key
    intro w member
    rcases List.mem_pair.mp member with rfl | rfl
    · exact before w (List.mem_singleton.mpr rfl)
    · exact value
  · apply wellFormed_set wellFormed key
    intro w member
    rw [List.mem_singleton.mp member]
    exact value

theorem parseHeaders_wellFormed {d d' : Headers} {f rest : Bytes}
    (wellFormed : WellFormed d)
    (ascii : ∀ byte ∈ headerSection f, byte < 0x80)
    (parsed : parseHeaders d f = .ok (d', rest)) : WellFormed d' := by
  induction d, f using parseHeaders.induct with
  | case1 d f blank =>
      rw [parseHeaders_end blank, Except.ok.injEq, Prod.mk.injEq] at parsed
      rw [← parsed.1]
      exact wellFormed
  | case2 d f present ih =>
      rw [headerSection, if_neg present, List.forall_mem_append] at ascii
      rw [parseHeaders, if_neg present] at parsed
      obtain ⟨⟨k, v⟩, found, parsed⟩ := bind_eq_ok.mp parsed
      obtain ⟨key, value⟩ :=
        headerOfLine_isKey (headerLine_isLine ascii.1) found
      exact ih (k, v) (wellFormed_addHeader wellFormed key value) ascii.2
        parsed

theorem reprList_isValue {values : List PyStr}
    (isValue : ∀ v ∈ values, IsValue v) : IsValue (reprList values) := by
  have plain := reprList_plain fun v member => (isValue v member).ascii
  refine ⟨fun d member => (plain d member).1, ?_, ?_, ?_⟩
  · intro member
    exact (plain '\n' member).2 rfl
  · intro c first
    unfold reprList at first
    rw [List.head?_cons, Option.mem_some_iff] at first
    rw [← first]
    decide
  · intro c last
    unfold reprList at last
    rw [← List.cons_append, List.getLast?_concat, Option.mem_some_iff] at last
    rw [← last]
    decide

theorem text_isValue {value : HeaderValue}
    (isValue : ∀ v ∈ value.values, IsValue v) : IsValue value.text := by
  cases value with
  | one v => exact isValue v (List.mem_singleton.mpr rfl)
  | many values => exact reprList_isValue isValue

/-- A header as it is read back from its own line. -/
def reread (entry : PyStr × HeaderValue) : PyStr × HeaderValue :=
  (entry.1, .one entry.2.text)

theorem addHeader_fresh {d : Headers} {k : PyStr} (fresh : d.get? k = none)
    (v : PyStr) : addHeader d k v = d.set k (.one v) := by
  unfold addHeader
  rw [fresh]

theorem parseHeaders_header {d : Headers} {entry : PyStr × HeaderValue}
    (key : IsKey entry.1) (value : IsValue entry.2.text)
    (fresh : d.get? entry.1 = none) (behind : Bytes) :
    parseHeaders d ((headerText entry).map asciiByte ++ behind) =
      parseHeaders (d.set entry.1 (.one entry.2.text)) behind := by
  obtain ⟨line, rest⟩ := headerLine_printed key value behind
  have printed : headerText entry = headerText (reread entry) := rfl
  have found := headerOfLine_stripped key value
  rw [← line] at found
  have present : headerLine ((headerText (reread entry)).map asciiByte ++
      behind) ≠ [] := by
    unfold reread
    rw [line]
    unfold strippedHeader
    exact List.append_ne_nil_of_left_ne_nil key.present _
  rw [printed, parseHeaders_line present found, addHeader_fresh fresh]
  unfold reread
  rw [rest]

/-- Headers printed line by line, with a blank line behind them, are read one
by one; the lists among the values are read as text. -/
theorem parseHeaders_printed {entries : List (PyStr × HeaderValue)}
    (isHeader : ∀ entry ∈ entries, IsKey entry.1 ∧ IsValue entry.2.text)
    (distinct : (entries.map Prod.fst).Nodup) {d : Headers}
    (fresh : ∀ entry ∈ entries, d.get? entry.1 = none) (body : Bytes) :
    ∃ d', parseHeaders d ((entries.flatMap headerText).map asciiByte ++
        ([0x0d, 0x0a] ++ body)) = .ok (d', body) ∧
      d'.entries = d.entries ++ entries.map reread := by
  induction entries generalizing d with
  | nil =>
      have line : readline ([0x0d, 0x0a] ++ body) = ([0x0d, 0x0a], body) := rfl
      have blank : headerLine ([0x0d, 0x0a] ++ body) = [] := by
        unfold headerLine
        rw [line]
        rfl
      refine ⟨d, ?_, (List.append_nil _).symm⟩
      rw [List.flatMap_nil, List.map_nil, List.nil_append,
        parseHeaders_end blank, line]
  | cons entry rest ih =>
      obtain ⟨first, others⟩ := List.forall_mem_cons.mp isHeader
      obtain ⟨firstFresh, othersFresh⟩ := List.forall_mem_cons.mp fresh
      obtain ⟨other, restDistinct⟩ := List.nodup_cons.mp distinct
      have stillFresh := Dict.get?_set_absent other othersFresh
        (.one entry.2.text)
      obtain ⟨d', parsed, entriesRead⟩ := ih others restDistinct stillFresh
      refine ⟨d', ?_, ?_⟩
      · rw [List.flatMap_cons, List.map_append, List.append_assoc,
          parseHeaders_header first.1 first.2 firstFresh]
        exact parsed
      · rw [entriesRead, Dict.entries_set_of_absent firstFresh,
          List.append_assoc, List.map_cons]
        rfl

end DpktNg.Http
