/-
Which errors parsing raises.  Start lines and header lines raise errors of the
library only; a repeated header that is used as text, and a number that is none,
is too long to be read or does not fit, raise others.
-/

import DpktNg.Http.Reserialising

namespace DpktNg.Http

open Library

/-! ### Start lines and header lines -/

theorem startLine_raisesOnly (kind : MessageClass) (line : Bytes) :
    RaisesOnly PyError.IsUnpackError (kind.startLine line) := by
  cases kind with
  | request =>
      rw [MessageClass.startLine_request]
      unfold Request.startLine
      dsimp only
      split
      · split
        · exact raisesOnly_error.mpr trivial
        · split
          · exact raisesOnly_ok _
          · split
            · exact raisesOnly_ok _
            · exact raisesOnly_error.mpr trivial
      · exact raisesOnly_error.mpr trivial
  | response =>
      rw [MessageClass.startLine_response]
      unfold Response.startLine
      dsimp only
      split
      · split
        · exact raisesOnly_error.mpr trivial
        · exact raisesOnly_ok _
      · exact raisesOnly_error.mpr trivial

theorem headerOfLine_raisesOnly (line : PyStr) :
    RaisesOnly PyError.IsUnpackError (headerOfLine line) := by
  unfold headerOfLine
  dsimp only
  split
  · exact raisesOnly_error.mpr trivial
  · exact raisesOnly_ok _

theorem parseHeaders_raisesOnly (d : Headers) (f : Bytes) :
    RaisesOnly PyError.IsUnpackError (parseHeaders d f) := by
  induction d, f using parseHeaders.induct with
  | case1 d f blank =>
      rw [parseHeaders_end blank]
      exact raisesOnly_ok _
  | case2 d f present ih =>
      rw [parseHeaders, if_neg present]
      exact (headerOfLine_raisesOnly _).bind fun field _found => ih field

/-- Every line of the header section is a header. -/
def HeadersValid (f : Bytes) : Prop :=
  if headerLine f = [] then True
  else
    (∃ field, headerOfLine (headerLine f) = .ok field) ∧
      HeadersValid (readline f).2
termination_by f.length
decreasing_by exact readline_shorter (by assumption)

def behindHeaders (f : Bytes) : Bytes := f.drop (headerSection f).length

theorem parseHeaders_iff {d : Headers} {f : Bytes} :
    (∃ parsed, parseHeaders d f = .ok parsed) ↔ HeadersValid f := by
  induction d, f using parseHeaders.induct with
  | case1 d f blank =>
      rw [parseHeaders_end blank, HeadersValid, if_pos blank]
      exact iff_of_true ⟨_, rfl⟩ trivial
  | case2 d f present ih =>
      rw [parseHeaders, if_neg present, HeadersValid, if_neg present]
      constructor
      · rintro ⟨parsed, found⟩
        obtain ⟨field, isField, rest⟩ := bind_eq_ok.mp found
        exact ⟨⟨field, isField⟩, (ih field).mp ⟨parsed, rest⟩⟩
      · rintro ⟨⟨field, isField⟩, valid⟩
        obtain ⟨parsed, rest⟩ := (ih field).mpr valid
        exact ⟨parsed, bind_eq_ok.mpr ⟨field, isField, rest⟩⟩

theorem behindHeaders_end {f : Bytes} (blank : headerLine f = []) :
    behindHeaders f = (readline f).2 := by
  unfold behindHeaders
  rw [headerSection, if_pos blank, drop_readline]

theorem behindHeaders_line {f : Bytes} (present : headerLine f ≠ []) :
    behindHeaders f = behindHeaders (readline f).2 := by
  unfold behindHeaders
  rw [headerSection.eq_def f, if_neg present, List.length_append,
    ← List.drop_drop, drop_readline]

theorem parseHeaders_behind {d d' : Headers} {f rest : Bytes}
    (parsed : parseHeaders d f = .ok (d', rest)) : rest = behindHeaders f := by
  induction d, f using parseHeaders.induct with
  | case1 d f blank =>
      rw [parseHeaders_end blank, Except.ok.injEq, Prod.mk.injEq] at parsed
      rw [behindHeaders_end blank, ← parsed.2]
  | case2 d f present ih =>
      rw [parseHeaders, if_neg present] at parsed
      obtain ⟨field, _found, parsed⟩ := bind_eq_ok.mp parsed
      rw [ih field parsed, behindHeaders_line present]

def valuesOf (k : PyStr) (fields : List (PyStr × PyStr)) : List PyStr :=
  (fields.filter fun field => field.1 = k).map Prod.snd

/-- The entry of a header with these values. -/
def entryOf : List PyStr → Option HeaderValue
  | [] => none
  | [value] => some (.one value)
  | values => some (.many values)

theorem addHeader_entry {d : Headers} {k : PyStr} {values : List PyStr}
    (entry : d.get? k = entryOf values) (v : PyStr) :
    (addHeader d k v).get? k = entryOf (values ++ [v]) := by
  unfold addHeader
  rw [entry]
  match values with
  | [] => exact Dict.get?_set_same d _ _
  | [value] => exact Dict.get?_set_same d _ _
  | first :: second :: rest => exact Dict.get?_set_same d _ _

theorem addHeaders_entry {fields : List (PyStr × PyStr)} {d : Headers}
    {k : PyStr} {values : List PyStr} (entry : d.get? k = entryOf values) :
    (addHeaders d fields).get? k = entryOf (values ++ valuesOf k fields) := by
  induction fields generalizing d values with
  | nil =>
      unfold valuesOf
      rw [List.filter_nil, List.map_nil, List.append_nil]
      exact entry
  | cons field rest ih =>
      change (addHeaders (addHeader d field.1 field.2) rest).get? k = _
      unfold valuesOf
      by_cases same : field.1 = k
      · have added := addHeader_entry entry field.2
        rw [List.filter_cons, if_pos (decide_eq_true same), List.map_cons,
          same, ih added, List.append_assoc]
        rfl
      · have kept := addHeader_other d field.2 (Ne.symm same)
        rw [List.filter_cons, if_neg (by rw [decide_eq_true_iff]; exact same)]
        exact ih (kept.trans entry)

theorem get?_parsed {f rest : Bytes} {d : Headers}
    (parsed : parseHeaders Dict.empty f = .ok (d, rest)) (k : PyStr) :
    d.get? k = entryOf (valuesOf k (headerFields f)) := by
  have absent : (Dict.empty : Headers).get? k = entryOf [] := rfl
  rw [parseHeaders_fields parsed, addHeaders_entry absent, List.nil_append]

/-! ### Numbers and chunks -/

/-- A number that `read` takes. -/
def IndexSized (n : Int) : Prop := -2 ^ 63 ≤ n ∧ n < 2 ^ 63

theorem readCount_sized {f : Bytes} {n : Int} (sized : IndexSized n) :
    readCount f n = .ok (readFile f n) := if_pos sized

theorem readCount_escapes {f : Bytes} {n : Int} :
    Escapes PyError.IsUnpackError (readCount f n) ↔ ¬IndexSized n := by
  by_cases sized : IndexSized n
  · rw [readCount_sized sized]
    exact iff_of_false (not_escapes_ok _) (not_not.mpr sized)
  · have raised : readCount f n = .error (.other "OverflowError"
        "cannot fit 'int' into an index-sized integer".toList) :=
      if_neg sized
    rw [raised]
    exact iff_of_true (escapes_error.mpr (fun impossible => impossible)) sized

/-- A text that is a number for `int`, and one for `read`. -/
def IsLength (text : PyStr) : Prop :=
  ¬TooManyDigits text ∧ ∃ n, parseInt 10 text = some n ∧ IndexSized n

/-- The loop over the chunks comes to a size that `read` does not take. -/
inductive HugeChunk : Bytes → Prop where
  | here {f : Bytes} {n : Int} (sized : chunkSize f = .ok n)
      (huge : ¬IndexSized n) : HugeChunk f
  | later {f : Bytes} {n : Int} {data : Bytes × Bytes}
      (sized : chunkSize f = .ok n)
      (read : readCount (readline f).2 n = .ok data)
      (blank : stripBytes (readline data.2).1 = [])
      (whole : n ≠ 0 ∧ (data.1.length : Int) = n)
      (rest : HugeChunk (readline data.2).2) : HugeChunk f

theorem chunkSize_raisesOnly (f : Bytes) :
    RaisesOnly PyError.IsUnpackError (chunkSize f) := by
  unfold chunkSize
  split
  · exact raisesOnly_error.mpr trivial
  · split
    · exact raisesOnly_error.mpr trivial
    · exact raisesOnly_ok _

theorem endChunks_raisesOnly (n : Int) (f : Bytes) :
    RaisesOnly PyError.IsUnpackError (endChunks n f) := by
  unfold endChunks
  split
  · exact raisesOnly_ok _
  · exact raisesOnly_error.mpr trivial

/-- One turn of the loop, by what the size, the chunk and the line behind it
are. -/
theorem parseChunks_turn {f : Bytes} {n : Int} {data : Bytes × Bytes}
    (sized : chunkSize f = .ok n)
    (read : readCount (readline f).2 n = .ok data) :
    parseChunks f =
      if stripBytes (readline data.2).1 = [] ∧
          (n ≠ 0 ∧ (data.1.length : Int) = n) then
        parseChunks (readline data.2).2 >>= fun rest =>
          .ok (data.1 ++ rest.1, rest.2)
      else endChunks n (readline data.2).2 := by
  rw [parseChunks]
  split
  · rename_i problem failed
    rw [sized] at failed
    cases failed
  · rename_i n' sized'
    rw [sized, Except.ok.injEq] at sized'
    subst sized'
    split
    · rename_i problem failed
      rw [read] at failed
      cases failed
    · rename_i data' read'
      rw [read, Except.ok.injEq] at read'
      subst read'
      dsimp only
      by_cases blank : stripBytes (readline data.2).1 = []
      · rw [if_neg (not_not.mpr blank)]
        by_cases whole : n ≠ 0 ∧ (data.1.length : Int) = n
        · rw [if_pos whole, if_pos ⟨blank, whole⟩]
        · rw [if_neg whole, if_neg fun both => whole both.2]
      · rw [if_pos blank, if_neg fun both => blank both.1]

theorem parseChunks_unsized {f : Bytes} {problem : PyError}
    (failed : chunkSize f = .error problem) :
    parseChunks f = .error problem := by
  rw [parseChunks]
  split
  · rename_i problem' failed'
    rw [failed, Except.error.injEq] at failed'
    rw [failed']
  · rename_i n sized
    rw [failed] at sized
    cases sized

theorem parseChunks_unread {f : Bytes} {n : Int} {problem : PyError}
    (sized : chunkSize f = .ok n)
    (failed : readCount (readline f).2 n = .error problem) :
    parseChunks f = .error problem := by
  rw [parseChunks]
  split
  · rename_i problem' failed'
    rw [sized] at failed'
    cases failed'
  · rename_i n' sized'
    rw [sized, Except.ok.injEq] at sized'
    subst sized'
    split
    · rename_i problem' failed'
      rw [failed, Except.error.injEq] at failed'
      rw [failed']
    · rename_i data read
      rw [failed] at read
      cases read

theorem parseChunks_escapes {f : Bytes} :
    Escapes PyError.IsUnpackError (parseChunks f) ↔ HugeChunk f := by
  induction length : f.length using Nat.strong_induction_on generalizing f with
  | _ bound ih =>
      cases sized : chunkSize f with
      | error problem =>
          rw [parseChunks_unsized sized]
          have library := chunkSize_raisesOnly f problem sized
          refine iff_of_false (not_escapes_error library) ?_
          intro huge
          cases huge with
          | here sized' _huge =>
              rw [sized] at sized'
              cases sized'
          | later sized' _read _blank _whole _rest =>
              rw [sized] at sized'
              cases sized'
      | ok n =>
          cases read : readCount (readline f).2 n with
          | error problem =>
              have huge : ¬IndexSized n := by
                intro small
                rw [readCount_sized small] at read
                cases read
              obtain ⟨problem', raised, refused⟩ :=
                (@readCount_escapes (readline f).2 n).mpr huge
              rw [parseChunks_unread sized raised]
              exact iff_of_true (escapes_error.mpr refused) (.here sized huge)
          | ok data =>
              have shorter := chunk_shorter sized read
              rw [parseChunks_turn sized read]
              split
              · rename_i goesOn
                rw [escapes_map, ih _ (by omega) rfl]
                constructor
                · exact .later sized read goesOn.1 goesOn.2
                · intro huge
                  cases huge with
                  | here sized' huge =>
                      rw [sized, Except.ok.injEq] at sized'
                      rw [← sized', ← readCount_escapes, read] at huge
                      exact absurd huge (not_escapes_ok _)
                  | later sized' read' _blank _whole rest =>
                      rw [sized, Except.ok.injEq] at sized'
                      rw [← sized', read, Except.ok.injEq] at read'
                      rw [read']
                      exact rest
              · rename_i stops
                refine iff_of_false (not_escapes_iff.mpr
                  (endChunks_raisesOnly _ _)) ?_
                intro huge
                cases huge with
                | here sized' huge =>
                    rw [sized, Except.ok.injEq] at sized'
                    rw [← sized', ← readCount_escapes, read] at huge
                    exact not_escapes_ok _ huge
                | later sized' read' blank whole _rest =>
                    rw [sized, Except.ok.injEq] at sized'
                    rw [← sized', read, Except.ok.injEq] at read'
                    rw [← read'] at blank whole
                    rw [← sized'] at whole
                    exact stops ⟨blank, whole⟩

/-! ### Bodies -/

/-- Values of `content-length` that raise an error of another kind. -/
def LengthTrouble : List PyStr → Prop
  | [] => False
  | [value] => ¬IsLength value
  | _ => True

/-- A body, and values of `transfer-encoding` and `content-length`, that raise
an error of another kind. -/
def BodyTrouble (f : Bytes) (encodings lengths : List PyStr) : Prop :=
  match encodings with
  | [] => LengthTrouble lengths
  | [value] =>
      if lowerText value = "chunked".toList then HugeChunk f
      else LengthTrouble lengths
  | _ => True

theorem intOfText_long {text : PyStr} (long : TooManyDigits text) :
    Escapes PyError.IsUnpackError (intOfText text) := by
  unfold intOfText
  rw [if_pos long]
  exact escapes_error.mpr (fun impossible => impossible)

theorem intOfText_none {text : PyStr} (none : parseInt 10 text = none) :
    Escapes PyError.IsUnpackError (intOfText text) := by
  by_cases long : TooManyDigits text
  · exact intOfText_long long
  · unfold intOfText
    rw [if_neg long, none]
    exact escapes_error.mpr (fun impossible => impossible)

theorem intOfText_some {text : PyStr} {n : Int} (short : ¬TooManyDigits text)
    (number : parseInt 10 text = some n) : intOfText text = .ok n := by
  unfold intOfText
  rw [if_neg short, number]

/-- A body that is not chunked depends on the values of `content-length`. -/
theorem parseBody_plain_escapes {f : Bytes} {headers : Headers}
    {lengths : List PyStr} (plain : isChunked headers = .ok false)
    (entry : headers.get? contentLength = entryOf lengths) :
    Escapes PyError.IsUnpackError (parseBody f headers) ↔
      LengthTrouble lengths := by
  unfold parseBody
  rw [plain, ok_bind, if_neg Bool.false_ne_true, entry]
  match lengths with
  | [] =>
      refine iff_of_false (not_escapes_iff.mpr ?_) (fun impossible => impossible)
      change RaisesOnly _ (if headers.contains contentType then _ else _)
      split
      · exact raisesOnly_ok _
      · exact raisesOnly_ok _
  | first :: second :: rest =>
      exact iff_of_true (escapes_error.mpr (fun impossible => impossible))
        trivial
  | [value] =>
      change Escapes _ (intOfText value >>= _) ↔ ¬IsLength value
      by_cases long : TooManyDigits value
      · exact iff_of_true (escapes_bind.mpr (Or.inl (intOfText_long long)))
          fun isLength => isLength.1 long
      cases number : parseInt 10 value with
      | none =>
          refine iff_of_true ?_ ?_
          · exact escapes_bind.mpr (Or.inl (intOfText_none number))
          · rintro ⟨_short, n, isNumber, _sized⟩
            rw [number] at isNumber
            cases isNumber
      | some n =>
          rw [intOfText_some long number, ok_bind]
          have sizedIff : IsLength value ↔ IndexSized n := by
            constructor
            · rintro ⟨_short, n', isNumber, sized⟩
              rw [number, Option.some.injEq] at isNumber
              rw [isNumber]
              exact sized
            · exact fun sized => ⟨long, n, number, sized⟩
          rw [sizedIff, escapes_bind, readCount_escapes]
          apply or_iff_left
          rintro ⟨body, _read, escapes⟩
          revert escapes
          split
          · exact not_escapes_error trivial
          · exact not_escapes_ok _

theorem parseBody_escapes {f : Bytes} {headers : Headers}
    {encodings lengths : List PyStr}
    (encoding : headers.get? transferEncoding = entryOf encodings)
    (length : headers.get? contentLength = entryOf lengths) :
    Escapes PyError.IsUnpackError (parseBody f headers) ↔
      BodyTrouble f encodings lengths := by
  match encodings with
  | [] =>
      have plain : isChunked headers = .ok false := by
        unfold isChunked
        rw [encoding]
        rfl
      exact parseBody_plain_escapes plain length
  | first :: second :: rest =>
      have raised : parseBody f headers = .error .attributeError := by
        unfold parseBody isChunked
        rw [encoding]
        rfl
      rw [raised]
      exact iff_of_true (escapes_error.mpr (fun impossible => impossible))
        trivial
  | [value] =>
      have found : isChunked headers =
          .ok (decide (lowerText value = "chunked".toList)) := by
        unfold isChunked
        rw [encoding]
        rfl
      unfold BodyTrouble
      by_cases chunked : lowerText value = "chunked".toList
      · rw [decide_eq_true chunked] at found
        have joined : parseBody f headers = parseChunks f := by
          unfold parseBody
          rw [found, ok_bind, if_pos rfl]
        rw [joined, parseChunks_escapes]
        exact (iff_of_eq (if_pos chunked)).symm
      · rw [decide_eq_false chunked] at found
        rw [parseBody_plain_escapes found length]
        exact (iff_of_eq (if_neg chunked)).symm

/-! ### Messages -/

/-- A status of more digits than `int` reads. -/
def StartLine.LongStatus : StartLine → Prop
  | .request _ _ _ => False
  | .response _ status _ => 4300 < status.length

theorem isDigitOf_ten {c : Char} (low : '0' ≤ c) (high : c ≤ '9') :
    isDigitOf 10 c = true := by
  have atMost : c.toNat ≤ 57 := high
  have zero : '0'.toNat = 48 := rfl
  unfold isDigitOf digitValue
  rw [if_pos ⟨low, high⟩]
  exact decide_eq_true (by omega)

theorem isDigitText_digits {text : PyStr} (digits : isDigitText text = true) :
    text ≠ [] ∧ ∀ c ∈ text, isDigitOf 10 c = true := by
  obtain ⟨present, all⟩ := of_decide_eq_true digits
  refine ⟨present, ?_⟩
  intro c member
  obtain ⟨low, high⟩ := of_decide_eq_true (List.all_eq_true.mp all c member)
  exact isDigitOf_ten low high

/-- Only digits are accepted as a status. -/
theorem startLine_response_digits {line : Bytes}
    {version status reason : PyStr}
    (accepted : Response.startLine line = .ok (.response version status reason)) :
    isDigitText status = true := by
  unfold Response.startLine at accepted
  dsimp only at accepted
  split at accepted
  · split at accepted
    · cases accepted
    · rename_i allowed
      rw [Except.ok.injEq, StartLine.response.injEq] at accepted
      rw [not_or, not_not, not_not, accepted.2.1] at allowed
      exact allowed.2
  · cases accepted

theorem isBodyAllowed_escapes {kind : MessageClass} {line : Bytes}
    {start : StartLine} (accepted : kind.startLine line = .ok start) :
    Escapes PyError.IsUnpackError start.isBodyAllowed ↔ start.LongStatus := by
  cases start with
  | request method uri version => exact iff_of_false (not_escapes_ok _) id
  | response version status reason =>
      have digits : isDigitText status = true := by
        cases kind with
        | request =>
            obtain ⟨_method, _uri, _version, isRequest, -⟩ :=
              Request.startLine_fields accepted
            cases isRequest
        | response => exact startLine_response_digits accepted
      obtain ⟨present, all⟩ := isDigitText_digits digits
      have counted := tooManyDigits_digits all present
      change Escapes _ (intOfText status >>= _) ↔ 4300 < status.length
      rw [← counted]
      by_cases long : TooManyDigits status
      · exact iff_of_true (escapes_bind.mpr (Or.inl (intOfText_long long))) long
      · rw [intOfText_some long (parseInt_digits all present), ok_bind]
        exact iff_of_false (not_escapes_ok _) long

/-- An accepted start line that raises an error of another kind, or allows a
body that does behind its headers. -/
def Trouble (kind : MessageClass) (buf : Bytes) : Prop :=
  ∃ start, kind.startLine (readline buf).1 = .ok start ∧
    (start.LongStatus ∨
      start.isBodyAllowed = .ok true ∧
      HeadersValid (readline buf).2 ∧
      BodyTrouble (behindHeaders (readline buf).2)
        (valuesOf transferEncoding (headerFields (readline buf).2))
        (valuesOf contentLength (headerFields (readline buf).2)))

theorem afterHeaders_escapes {start : StartLine} {isBodyAllowed : Bool}
    {headers : Headers} {f : Bytes} :
    Escapes PyError.IsUnpackError
        (afterHeaders start isBodyAllowed headers f) ↔
      isBodyAllowed = true ∧
        Escapes PyError.IsUnpackError (parseBody f headers) := by
  have wrapped := @escapes_map PyError (Bytes × Bytes) Message
    PyError.IsUnpackError
    (if isBodyAllowed then parseBody f headers else .ok ([], f))
    fun body =>
      { start := start, headers := headers, body := body.1, data := body.2 }
  refine Iff.trans wrapped ?_
  by_cases allowed : isBodyAllowed = true
  · rw [if_pos allowed]
    exact (and_iff_right allowed).symm
  · rw [if_neg allowed]
    exact iff_of_false (not_escapes_ok _) (fun both => allowed both.1)

theorem unpack_escapes {start : StartLine} {isBodyAllowed : Bool}
    {buf : Bytes} :
    Escapes PyError.IsUnpackError (Message.unpack start isBodyAllowed buf) ↔
      isBodyAllowed = true ∧ HeadersValid buf ∧
        BodyTrouble (behindHeaders buf)
          (valuesOf transferEncoding (headerFields buf))
          (valuesOf contentLength (headerFields buf)) := by
  have bodyIff : ∀ {headers f},
      parseHeaders Dict.empty buf = .ok (headers, f) →
        (Escapes PyError.IsUnpackError (parseBody f headers) ↔
          BodyTrouble (behindHeaders buf)
            (valuesOf transferEncoding (headerFields buf))
            (valuesOf contentLength (headerFields buf))) := by
    intro headers f parsed
    rw [parseHeaders_behind parsed]
    exact parseBody_escapes (get?_parsed parsed transferEncoding)
      (get?_parsed parsed contentLength)
  have headersFine : ¬Escapes PyError.IsUnpackError
      (parseHeaders Dict.empty buf) :=
    not_escapes_iff.mpr (parseHeaders_raisesOnly _ _)
  unfold Message.unpack
  rw [escapes_bind]
  constructor
  · rintro (impossible | ⟨⟨headers, f⟩, found, escapes⟩)
    · exact absurd impossible headersFine
    · obtain ⟨allowed, escapes⟩ := afterHeaders_escapes.mp escapes
      exact ⟨allowed, parseHeaders_iff.mp ⟨_, found⟩,
        (bodyIff found).mp escapes⟩
  · rintro ⟨allowed, valid, trouble⟩
    obtain ⟨⟨headers, f⟩, found⟩ :=
      (@parseHeaders_iff Dict.empty buf).mpr valid
    exact Or.inr ⟨(headers, f), found,
      afterHeaders_escapes.mpr ⟨allowed, (bodyIff found).mpr trouble⟩⟩

theorem parse_escapes {kind : MessageClass} {buf : Bytes} :
    Escapes PyError.IsUnpackError (kind.parse buf) ↔ Trouble kind buf := by
  have startFine : ¬Escapes PyError.IsUnpackError
      (kind.startLine (readline buf).1) :=
    not_escapes_iff.mpr (startLine_raisesOnly kind _)
  unfold MessageClass.parse
  rw [escapes_bind, or_iff_right startFine]
  refine exists_congr fun start => and_congr_right fun isStart => ?_
  rw [escapes_bind, isBodyAllowed_escapes isStart]
  refine or_congr_right ?_
  constructor
  · rintro ⟨isBodyAllowed, allows, escapes⟩
    obtain ⟨allowed, behind⟩ := unpack_escapes.mp escapes
    rw [allowed] at allows
    exact ⟨allows, behind⟩
  · rintro ⟨allows, behind⟩
    exact ⟨true, allows, unpack_escapes.mpr ⟨rfl, behind⟩⟩

/-- Parsing raises errors of the library only, except on these inputs. -/
theorem http_raisesOnly_iff (kind : MessageClass) (buf : Bytes) :
    RaisesOnly PyError.IsUnpackError (kind.parse buf) ↔ ¬Trouble kind buf := by
  rw [← not_escapes_iff, parse_escapes]

def wrongLength : Bytes :=
  asciiBytes "GET / HTTP/1.0\r\ncontent-length: x\r\n\r\n"

theorem wrongLength_parse : MessageClass.request.parse wrongLength =
    .error (.other "ValueError"
      "invalid literal for int() with base 10: 'x'".toList) := by
  have line : headerOfLine (headerLine (readline wrongLength).2) =
      .ok (contentLength, ['x']) := rfl
  have start : MessageClass.request.startLine (readline wrongLength).1 =
      .ok plainGet := rfl
  have allows : plainGet.isBodyAllowed = .ok true := rfl
  unfold MessageClass.parse Message.unpack
  rw [start, ok_bind, allows, ok_bind, parseHeaders_line (by decide +kernel) line,
    parseHeaders_end rfl]
  rfl

theorem wrongLength_raises :
    ¬∀ (kind : MessageClass) (buf : Bytes),
      RaisesOnly PyError.IsUnpackError (kind.parse buf) := by
  intro library
  exact library .request wrongLength _ wrongLength_parse

end DpktNg.Http
