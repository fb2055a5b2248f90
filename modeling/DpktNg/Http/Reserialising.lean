/-
Which messages come back when their bytes are parsed again.  Repeated headers
do not, as their list is printed like a value; nor does a chunked body, as it
is written without its chunks.
-/

import DpktNg.Http.StartLines

namespace DpktNg.Http

open Library

/-! ### Header lines and headers -/

/-- Keys and values of the lines of the header section. -/
def headerFields (f : Bytes) : List (PyStr × PyStr) :=
  if headerLine f = [] then []
  else
    match headerOfLine (headerLine f) with
    | .error _ => []
    | .ok header => header :: headerFields (readline f).2
termination_by f.length
decreasing_by exact readline_shorter (by assumption)

def addHeaders (d : Headers) (fields : List (PyStr × PyStr)) : Headers :=
  fields.foldl (fun d field => addHeader d field.1 field.2) d

theorem parseHeaders_fields {d d' : Headers} {f rest : Bytes}
    (parsed : parseHeaders d f = .ok (d', rest)) :
    d' = addHeaders d (headerFields f) := by
  induction d, f using parseHeaders.induct with
  | case1 d f blank =>
      rw [parseHeaders_end blank, Except.ok.injEq, Prod.mk.injEq] at parsed
      rw [headerFields, if_pos blank, ← parsed.1]
      rfl
  | case2 d f present ih =>
      rw [parseHeaders, if_neg present] at parsed
      obtain ⟨field, found, parsed⟩ := bind_eq_ok.mp parsed
      rw [headerFields, if_neg present, found, ih field parsed]
      rfl

theorem addHeader_other (d : Headers) {k other : PyStr} (v : PyStr)
    (different : other ≠ k) : (addHeader d k v).get? other = d.get? other := by
  unfold addHeader
  split
  · exact Dict.get?_set_other d _ different
  · exact Dict.get?_set_other d _ different
  · exact Dict.get?_set_other d _ different

theorem addHeader_present (d : Headers) (k v : PyStr) :
    (addHeader d k v).get? k ≠ none := by
  unfold addHeader
  split
  · rw [Dict.get?_set_same]
    exact Option.some_ne_none _
  · rw [Dict.get?_set_same]
    exact Option.some_ne_none _
  · rw [Dict.get?_set_same]
    exact Option.some_ne_none _

theorem addHeaders_distinct {fields : List (PyStr × PyStr)}
    (distinct : (fields.map Prod.fst).Nodup) {d : Headers}
    (fresh : ∀ field ∈ fields, d.get? field.1 = none) :
    (addHeaders d fields).entries =
      d.entries ++ fields.map fun field => (field.1, .one field.2) := by
  induction fields generalizing d with
  | nil => exact (List.append_nil _).symm
  | cons field rest ih =>
      obtain ⟨other, restDistinct⟩ := List.nodup_cons.mp distinct
      obtain ⟨firstFresh, othersFresh⟩ := List.forall_mem_cons.mp fresh
      have stillFresh := Dict.get?_set_absent other othersFresh
        (.one field.2)
      change (addHeaders (addHeader d field.1 field.2) rest).entries = _
      rw [addHeader_fresh firstFresh, ih restDistinct stillFresh,
        Dict.entries_set_of_absent firstFresh, List.append_assoc,
        List.map_cons]
      rfl

theorem addHeaders_many {fields : List (PyStr × PyStr)} {d : Headers}
    {k : PyStr} {values : List PyStr}
    (repeated : d.get? k = some (.many values)) :
    ∃ values', (addHeaders d fields).get? k = some (.many values') := by
  induction fields generalizing d values with
  | nil => exact ⟨values, repeated⟩
  | cons field rest ih =>
      change ∃ values', (addHeaders (addHeader d field.1 field.2) rest).get? k =
        some (.many values')
      by_cases same : k = field.1
      · have longer : (addHeader d field.1 field.2).get? k =
            some (.many (values ++ [field.2])) := by
          rw [same] at repeated ⊢
          unfold addHeader
          rw [repeated]
          exact Dict.get?_set_same d _ _
        exact ih longer
      · exact ih ((addHeader_other d field.2 same).trans repeated)

/-- A key that is there already and comes again has a list of values. -/
theorem addHeaders_again {fields : List (PyStr × PyStr)} {d : Headers}
    {k : PyStr} (present : d.get? k ≠ none)
    (again : k ∈ fields.map Prod.fst) :
    ∃ values, (addHeaders d fields).get? k = some (.many values) := by
  induction fields generalizing d with
  | nil => cases again
  | cons field rest ih =>
      change ∃ values, (addHeaders (addHeader d field.1 field.2) rest).get? k =
        some (.many values)
      by_cases same : k = field.1
      · have repeated : ∃ values, (addHeader d field.1 field.2).get? k =
            some (.many values) := by
          rw [same] at present ⊢
          unfold addHeader
          split
          · exact ⟨_, Dict.get?_set_same d _ _⟩
          · exact ⟨_, Dict.get?_set_same d _ _⟩
          · rename_i absent
            exact absurd absent present
        obtain ⟨values, isList⟩ := repeated
        exact addHeaders_many isList
      · have later : k ∈ rest.map Prod.fst := by
          rw [List.map_cons, List.mem_cons] at again
          exact again.resolve_left same
        have kept := addHeader_other d field.2 same
        exact ih (by rw [kept]; exact present) later

theorem headerFields_end {f : Bytes} (blank : headerLine f = []) :
    headerFields f = [] := by
  rw [headerFields, if_pos blank]

theorem headerFields_line {f : Bytes} {field : PyStr × PyStr}
    (present : headerLine f ≠ [])
    (found : headerOfLine (headerLine f) = .ok field) :
    headerFields f = field :: headerFields (readline f).2 := by
  rw [headerFields, if_neg present, found]

theorem addHeaders_nodup {fields : List (PyStr × PyStr)} {d : Headers}
    (single : ∀ k values, (addHeaders d fields).get? k ≠ some (.many values)) :
    (fields.map Prod.fst).Nodup := by
  induction fields generalizing d with
  | nil => exact List.nodup_nil
  | cons field rest ih =>
      change ∀ k values, (addHeaders (addHeader d field.1 field.2) rest).get? k
        ≠ some (.many values) at single
      rw [List.map_cons, List.nodup_cons]
      refine ⟨?_, ih single⟩
      intro again
      obtain ⟨values, isList⟩ :=
        addHeaders_again (addHeader_present d field.1 field.2) again
      exact single _ values isList

theorem reread_eq_self {entry : PyStr × HeaderValue} :
    reread entry = entry ↔ ∃ v, entry.2 = .one v := by
  obtain ⟨k, value⟩ := entry
  unfold reread
  rw [Prod.mk.injEq]
  constructor
  · intro same
    exact ⟨value.text, same.2.symm⟩
  · rintro ⟨v, isOne⟩
    change value = .one v at isOne
    rw [isOne]
    exact ⟨rfl, rfl⟩

/-- All values stand alone exactly if no two lines have the same key. -/
theorem addHeaders_reread (fields : List (PyStr × PyStr)) :
    (addHeaders Dict.empty fields).entries.map reread =
        (addHeaders Dict.empty fields).entries ↔
      (fields.map Prod.fst).Nodup := by
  constructor
  · intro same
    have ones := List.map_inj_left.mp (same.trans (List.map_id _).symm)
    apply addHeaders_nodup
    intro k values isList
    have member := Dict.get?_eq_some.mp isList
    obtain ⟨v, isOne⟩ := reread_eq_self.mp (ones _ member)
    cases isOne
  · intro distinct
    have entries := @addHeaders_distinct fields distinct Dict.empty
      (fun field _ => rfl)
    rw [entries, List.map_append, List.map_map]
    rfl

/-! ### Bodies -/

theorem parseChunks_step {f : Bytes} {body : Bytes × Bytes}
    (parsed : parseChunks f = .ok body) :
    ∃ n data, chunkSize f = .ok n ∧ readCount (readline f).2 n = .ok data ∧
      (endChunks n (readline data.2).2 = .ok body ∨
        ∃ rest, parseChunks (readline data.2).2 = .ok rest ∧
          body = (data.1 ++ rest.1, rest.2)) := by
  rw [parseChunks] at parsed
  split at parsed
  · cases parsed
  · rename_i n sized
    split at parsed
    · cases parsed
    · rename_i data read
      refine ⟨n, data, sized, read, ?_⟩
      dsimp only at parsed
      split at parsed
      · exact Or.inl parsed
      · split at parsed
        · obtain ⟨rest, later, same⟩ := bind_eq_ok.mp parsed
          rw [Except.ok.injEq] at same
          exact Or.inr ⟨rest, later, same.symm⟩
        · exact Or.inl parsed

theorem parseChunks_shorter {f : Bytes} {body : Bytes × Bytes}
    (parsed : parseChunks f = .ok body) : body.1.length < f.length := by
  induction length : f.length using Nat.strong_induction_on
    generalizing f body with
  | _ bound ih =>
      obtain ⟨n, data, sized, read, turn⟩ := parseChunks_step parsed
      have shorter := chunk_shorter sized read
      rcases turn with stop | ⟨rest, later, same⟩
      · unfold endChunks at stop
        split at stop
        · rw [Except.ok.injEq] at stop
          rw [← stop, List.length_nil]
          omega
        · cases stop
      · have others := ih _ (by omega) later rfl
        rw [same, List.length_append]
        omega

/-- What a number of bytes was read into is read again by that number. -/
theorem readCount_again {f body : Bytes} {n : Int}
    (read : readCount f n = .ok (body, [])) (whole : (body.length : Int) = n) :
    readCount body n = .ok (body, []) := by
  unfold readCount at read ⊢
  split at read
  · rename_i fits
    rw [if_pos fits]
    unfold readFile
    rw [← whole, if_neg (by omega), Int.toNat_natCast, List.take_length,
      List.drop_length]
  · cases read

theorem parseBody_again {f body : Bytes} {headers : Headers}
    (parsed : parseBody f headers = .ok (body, []))
    (plain : isChunked headers ≠ .ok true) :
    parseBody body headers = .ok (body, []) := by
  unfold parseBody at parsed ⊢
  obtain ⟨chunked, found, parsed⟩ := bind_eq_ok.mp parsed
  rw [found, ok_bind]
  have isPlain : chunked = false := by
    rw [← Bool.not_eq_true]
    intro isChunk
    rw [isChunk] at found
    exact plain found
  rw [isPlain] at parsed ⊢
  rw [if_neg Bool.false_ne_true] at parsed ⊢
  split at parsed
  · cases parsed
  · rename_i value found
    obtain ⟨n, number, parsed⟩ := bind_eq_ok.mp parsed
    obtain ⟨data, read, parsed⟩ := bind_eq_ok.mp parsed
    split at parsed
    · cases parsed
    · rename_i whole
      rw [Except.ok.injEq] at parsed
      rw [not_not, parsed] at whole
      rw [parsed] at read
      rw [number, ok_bind, readCount_again read whole, ok_bind,
        if_neg (not_not.mpr whole)]
  · split at parsed
    · rename_i typed
      rw [Except.ok.injEq, Prod.mk.injEq] at parsed
      rw [if_pos typed]
    · rename_i untyped
      rw [Except.ok.injEq, Prod.mk.injEq] at parsed
      rw [if_neg untyped, ← parsed.1]

/-! ### Messages -/

def afterHeaders (start : StartLine) (isBodyAllowed : Bool) (headers : Headers)
    (f : Bytes) : Except PyError Message := do
  let (body, f) ←
    (if isBodyAllowed then parseBody f headers else .ok ([], f))
  .ok { start := start, headers := headers, body := body, data := f }

theorem parse_eq_ok {kind : MessageClass} {buf : Bytes} {message : Message} :
    kind.parse buf = .ok message ↔
      ∃ start isBodyAllowed headers f,
        kind.startLine (readline buf).1 = .ok start ∧
        start.isBodyAllowed = .ok isBodyAllowed ∧
        parseHeaders Dict.empty (readline buf).2 = .ok (headers, f) ∧
          afterHeaders start isBodyAllowed headers f = .ok message := by
  unfold MessageClass.parse Message.unpack
  constructor
  · intro parsed
    obtain ⟨start, isStart, parsed⟩ := bind_eq_ok.mp parsed
    obtain ⟨isBodyAllowed, allows, parsed⟩ := bind_eq_ok.mp parsed
    obtain ⟨⟨headers, f⟩, isHeaders, parsed⟩ := bind_eq_ok.mp parsed
    exact ⟨start, isBodyAllowed, headers, f, isStart, allows, isHeaders, parsed⟩
  · rintro ⟨start, isBodyAllowed, headers, f, isStart, allows, isHeaders,
      parsed⟩
    rw [isStart, ok_bind, allows, ok_bind, isHeaders]
    exact parsed

theorem afterHeaders_fields {start : StartLine} {isBodyAllowed : Bool}
    {headers : Headers} {f : Bytes} {message : Message}
    (parsed : afterHeaders start isBodyAllowed headers f = .ok message) :
    message.start = start ∧ message.headers = headers := by
  unfold afterHeaders at parsed
  obtain ⟨⟨body, rest⟩, _found, same⟩ := bind_eq_ok.mp parsed
  cases same
  exact ⟨rfl, rfl⟩

theorem afterHeaders_again {start : StartLine} {isBodyAllowed : Bool}
    {headers : Headers} {f : Bytes} {message : Message}
    (parsed : afterHeaders start isBodyAllowed headers f = .ok message)
    (complete : message.data = []) :
    afterHeaders start isBodyAllowed headers message.body = .ok message ↔
      ¬(isBodyAllowed = true ∧ isChunked headers = .ok true) := by
  unfold afterHeaders at parsed ⊢
  obtain ⟨⟨body, rest⟩, found, same⟩ := bind_eq_ok.mp parsed
  cases same
  change rest = [] at complete
  rw [complete] at found ⊢
  by_cases allowed : isBodyAllowed = true
  · rw [if_pos allowed] at found ⊢
    constructor
    · rintro again ⟨-, chunked⟩
      obtain ⟨⟨body', rest'⟩, foundAgain, same⟩ := bind_eq_ok.mp again
      cases same
      unfold parseBody at foundAgain
      rw [chunked, ok_bind, if_pos rfl] at foundAgain
      have shorter := @parseChunks_shorter body (body, []) foundAgain
      exact Nat.lt_irrefl _ shorter
    · intro plain
      rw [parseBody_again found (fun chunked => plain ⟨allowed, chunked⟩)]
      rfl
  · rw [if_neg allowed] at found ⊢
    cases found
    constructor
    · rintro - ⟨isAllowed, -⟩
      exact allowed isAllowed
    · intro _plain
      rfl

/-- The bytes of a message are parsed to its start line and to its headers,
their lists of values as text. -/
theorem parse_bytes {kind : MessageClass} {message : Message}
    {isBodyAllowed : Bool} (line : Reread kind message.start)
    (allows : message.start.isBodyAllowed = .ok isBodyAllowed)
    (wellFormed : WellFormed message.headers) :
    ∃ headers, headers.entries = message.headers.entries.map reread ∧
      kind.parse message.bytes =
        afterHeaders message.start isBodyAllowed headers message.body := by
  obtain ⟨text, isText, ascii, oneLine⟩ := line.line
  have isHeader : ∀ entry ∈ message.headers.entries,
      IsKey entry.1 ∧ IsValue entry.2.text := by
    intro entry member
    obtain ⟨key, values⟩ := wellFormed entry member
    exact ⟨key, text_isValue values⟩
  have headersAscii : IsAscii (packHdr message.headers) := by
    intro c member
    obtain ⟨entry, present, inEntry⟩ := List.mem_flatMap.mp member
    obtain ⟨key, value⟩ := isHeader entry present
    have entryAscii : IsAscii (headerText entry) :=
      (printed_ascii key value).1.append lineEnd_isAscii
    exact entryAscii c inEntry
  have startAscii : IsAscii message.start.text := by
    rw [isText]
    exact ascii.append lineEnd_isAscii
  obtain ⟨headers, parsed, entries⟩ :=
    parseHeaders_printed isHeader message.headers.distinct
      (fun entry _ => (rfl : Dict.empty.get? entry.1 = none)) message.body
  refine ⟨headers, entries, ?_⟩
  have firstLine := readline_text ascii oneLine
    ((packHdr message.headers).map asciiByte ++
      ([0x0d, 0x0a] ++ message.body))
  rw [← isText] at firstLine
  unfold MessageClass.parse Message.bytes
  rw [encodeAscii_eq startAscii, encodeAscii_eq headersAscii,
    List.append_assoc (List.map asciiByte (packHdr message.headers)),
    firstLine, line.parsed, ok_bind, allows, ok_bind]
  unfold Message.unpack packHdr
  rw [parsed]
  rfl

/-! ### The input -/

/-- The start line and the lines of the headers are ASCII text. -/
def AsciiHead (buf : Bytes) : Prop :=
  ∀ byte ∈ (readline buf).1 ++ headerSection (readline buf).2, byte < 0x80

theorem headerSection_prefix (f : Bytes) : headerSection f <+: f := by
  induction f using headerSection.induct with
  | case1 f blank =>
      rw [headerSection, if_pos blank]
      exact ⟨_, readline_append f⟩
  | case2 f present ih =>
      rw [headerSection, if_neg present]
      have whole := readline_append f
      obtain ⟨behind, rest⟩ := ih
      exact ⟨behind, by rw [List.append_assoc, rest, whole]⟩

theorem asciiHead_of_ascii {buf : Bytes}
    (ascii : buf.all (fun byte => byte < 0x80) = true) : AsciiHead buf := by
  have whole := readline_append buf
  obtain ⟨behind, rest⟩ := headerSection_prefix (readline buf).2
  intro byte member
  apply of_decide_eq_true
  apply List.all_eq_true.mp ascii
  rw [← whole, ← rest, ← List.append_assoc]
  exact List.mem_append_left _ member

/-- No two header lines have the same name. -/
def DistinctNames (buf : Bytes) : Prop :=
  ((headerFields (readline buf).2).map Prod.fst).Nodup

/-- The start line allows a body, and a header line says that it is chunked. -/
def SentInChunks (kind : MessageClass) (buf : Bytes) : Prop :=
  (∃ start, kind.startLine (readline buf).1 = .ok start ∧
    start.isBodyAllowed = .ok true) ∧
  ∃ value, (transferEncoding, value) ∈ headerFields (readline buf).2 ∧
    lowerText value = "chunked".toList

/-- With distinct names a lookup finds the header line. -/
theorem get?_addHeaders {fields : List (PyStr × PyStr)}
    (distinct : (fields.map Prod.fst).Nodup) (k : PyStr) (value : HeaderValue) :
    (addHeaders Dict.empty fields).get? k = some value ↔
      ∃ v, (k, v) ∈ fields ∧ value = .one v := by
  have entries := @addHeaders_distinct fields distinct Dict.empty
    (fun field _ => rfl)
  rw [Dict.get?_eq_some, entries]
  change _ ∈ fields.map _ ↔ _
  rw [List.mem_map]
  constructor
  · rintro ⟨⟨k', v⟩, present, same⟩
    rw [Prod.mk.injEq] at same
    rw [← same.1, ← same.2]
    exact ⟨v, present, rfl⟩
  · rintro ⟨v, present, rfl⟩
    exact ⟨(k, v), present, rfl⟩

theorem isChunked_addHeaders {fields : List (PyStr × PyStr)}
    (distinct : (fields.map Prod.fst).Nodup) :
    isChunked (addHeaders Dict.empty fields) = .ok true ↔
      ∃ value, (transferEncoding, value) ∈ fields ∧
        lowerText value = "chunked".toList := by
  have lookup := get?_addHeaders distinct transferEncoding
  unfold isChunked
  cases found : (addHeaders Dict.empty fields).get? transferEncoding with
  | none =>
      constructor
      · intro impossible
        cases impossible
      · rintro ⟨value, present, -⟩
        rw [(lookup _).mpr ⟨value, present, rfl⟩] at found
        cases found
  | some value =>
      obtain ⟨v, present, rfl⟩ := (lookup value).mp found
      dsimp only
      rw [Except.ok.injEq, decide_eq_true_iff]
      constructor
      · intro chunked
        exact ⟨v, present, chunked⟩
      · rintro ⟨v', present', chunked⟩
        rw [(lookup _).mpr ⟨v', present', rfl⟩, Option.some.injEq,
          HeaderValue.one.injEq] at found
        rw [← found]
        exact chunked

/-- A message that was parsed to the end of its bytes comes back, in all its
fields, exactly if its header lines have distinct names and it is not sent in
chunks. -/
theorem http_reserialised_iff (kind : MessageClass) {buf : Bytes}
    {message : Message} (parsed : kind.parse buf = .ok message)
    (complete : message.data = []) (ascii : AsciiHead buf) :
    kind.parse message.bytes = .ok message ↔
      DistinctNames buf ∧ ¬SentInChunks kind buf := by
  obtain ⟨start, isBodyAllowed, headers, f, isStart, allows, isHeaders, body⟩ :=
    parse_eq_ok.mp parsed
  obtain ⟨sameStart, sameHeaders⟩ := afterHeaders_fields body
  have lines := List.forall_mem_append.mp ascii
  have wellFormed := parseHeaders_wellFormed (fun _ member => by cases member)
    lines.2 isHeaders
  have fields := parseHeaders_fields isHeaders
  have line := startLine_reread lines.1 isStart
  rw [← sameStart] at line allows
  rw [← sameHeaders] at wellFormed
  obtain ⟨headers', entries, again⟩ := parse_bytes line allows wellFormed
  rw [again, sameStart]
  rw [sameStart] at allows
  rw [sameHeaders] at entries
  have distinct := addHeaders_reread (headerFields (readline buf).2)
  rw [← fields, ← entries] at distinct
  change _ ↔ DistinctNames buf at distinct
  constructor
  · intro restored
    have same := (afterHeaders_fields restored).2
    rw [sameHeaders] at same
    have names := distinct.mp (congrArg Dict.entries same.symm)
    rw [← same] at restored
    have plain := (afterHeaders_again body complete).mp restored
    refine ⟨names, ?_⟩
    rintro ⟨⟨start', isStart', allowed⟩, chunked⟩
    rw [isStart, Except.ok.injEq] at isStart'
    rw [← isStart', allows, Except.ok.injEq] at allowed
    rw [← isChunked_addHeaders names, ← fields] at chunked
    exact plain ⟨allowed, chunked⟩
  · rintro ⟨names, plain⟩
    have same : headers' = headers := Dict.eq_of_entries (distinct.mpr names)
    rw [same, afterHeaders_again body complete]
    rintro ⟨allowed, chunked⟩
    rw [fields, isChunked_addHeaders names] at chunked
    rw [allowed] at allows
    exact plain ⟨⟨start, isStart, allows⟩, chunked⟩

def posted : Bytes :=
  asciiBytes "POST / HTTP/1.0\r\nContent-Length: 2\r\n\r\nhi"

def postedMessage : Message :=
  { start := .request "POST".toList ['/'] "1.0".toList
    headers := Dict.empty.set contentLength (.one ['2'])
    body := asciiBytes "hi"
    data := [] }

theorem posted_present : headerLine (readline posted).2 ≠ [] := by
  decide +kernel

theorem posted_line :
    headerOfLine (headerLine (readline posted).2) =
      .ok (contentLength, ['2']) := rfl

theorem posted_blank : headerLine (readline (readline posted).2).2 = [] := rfl

theorem posted_parsed :
    MessageClass.request.parse posted = .ok postedMessage := by
  apply parse_eq_ok.mpr
  refine ⟨postedMessage.start, true, postedMessage.headers, asciiBytes "hi",
    rfl, rfl, ?_, rfl⟩
  rw [parseHeaders_line posted_present posted_line,
    parseHeaders_end posted_blank]
  rfl

theorem posted_reserialised :
    MessageClass.request.parse postedMessage.bytes = .ok postedMessage := by
  have fields : headerFields (readline posted).2 = [(contentLength, ['2'])] := by
    rw [headerFields_line posted_present posted_line,
      headerFields_end posted_blank]
  apply (http_reserialised_iff .request posted_parsed rfl
    (asciiHead_of_ascii rfl)).mpr
  constructor
  · unfold DistinctNames
    rw [fields]
    exact List.nodup_singleton _
  · rintro ⟨-, value, member, -⟩
    rw [fields, List.mem_singleton, Prod.mk.injEq] at member
    have different : transferEncoding ≠ contentLength := by decide +kernel
    exact different member.1

def repeatedHeader : Bytes :=
  asciiBytes "GET / HTTP/1.0\r\na: 1\r\na: 2\r\n\r\n"

def plainGet : StartLine := .request "GET".toList ['/'] "1.0".toList

def repeatedMessage (value : HeaderValue) : Message :=
  { start := plainGet
    headers := Dict.empty.set ['a'] value
    body := []
    data := [] }

theorem repeatedHeader_parsed :
    MessageClass.request.parse repeatedHeader =
      .ok (repeatedMessage (.many [['1'], ['2']])) := by
  have first : headerOfLine (headerLine (readline repeatedHeader).2) =
      .ok (['a'], ['1']) := rfl
  have second : headerOfLine
      (headerLine (readline (readline repeatedHeader).2).2) =
        .ok (['a'], ['2']) := rfl
  apply parse_eq_ok.mpr
  refine ⟨plainGet, true, (repeatedMessage (.many [['1'], ['2']])).headers, [],
    rfl, rfl, ?_, rfl⟩
  rw [parseHeaders_line (by decide +kernel) first,
    parseHeaders_line (by decide +kernel) second,
    parseHeaders_end rfl]
  rfl

theorem repeatedMessage_parsed :
    MessageClass.request.parse
        (repeatedMessage (.many [['1'], ['2']])).bytes =
      .ok (repeatedMessage (.one "['1', '2']".toList)) := by
  have line : headerOfLine (headerLine
      (readline (repeatedMessage (.many [['1'], ['2']])).bytes).2) =
        .ok (['a'], "['1', '2']".toList) := rfl
  apply parse_eq_ok.mpr
  refine ⟨plainGet, true,
    (repeatedMessage (.one "['1', '2']".toList)).headers, [], rfl, rfl, ?_,
    rfl⟩
  rw [parseHeaders_line (by decide +kernel) line,
    parseHeaders_end rfl]
  rfl

theorem repeatedHeader_not_reserialised :
    ¬∀ (kind : MessageClass) (buf : Bytes) (message : Message),
      kind.parse buf = .ok message → message.data = [] → AsciiHead buf →
        kind.parse message.bytes = .ok message := by
  intro restored
  have again := restored .request repeatedHeader _ repeatedHeader_parsed rfl
    (asciiHead_of_ascii rfl)
  rw [repeatedMessage_parsed] at again
  revert again
  decide +kernel

end DpktNg.Http
