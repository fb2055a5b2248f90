/-
HTTP messages of dpkt/http.py: headers, bodies, and the start lines of
`Request` and `Response`.  All text is decoded from ASCII, so a `str` here has
ASCII characters only.
-/

import DpktNg.Library.Dict
import DpktNg.Python.Integer
import DpktNg.Python.Text

namespace DpktNg.Http

open Library

/-- The value of a header, or the list of the values of one that was
repeated. -/
inductive HeaderValue where
  | one (value : PyStr)
  | many (values : List PyStr)
deriving DecidableEq, Repr

abbrev Headers := Dict PyStr HeaderValue

/-- `line.split(':', 1)`: the part in front of the first colon, and the part
behind it if there is one. -/
def splitColon (line : PyStr) : PyStr × Option PyStr :=
  match line.dropWhile (· != ':') with
  | [] => (line, none)
  | _ :: behind => (line.takeWhile (· != ':'), some behind)

/-- Key and value of a line. -/
def headerOfLine (line : PyStr) : Except PyError (PyStr × PyStr) :=
  let l_ := splitColon line
  if (splitText l_.1).length ≠ 1 then
    .error (.unpackError ("invalid header: ".toList ++ reprText line))
  else
    let v :=
      match l_.2 with
      | none => []
      | some behind => behind.dropWhile isStrSpace
    .ok (lowerText l_.1, v)

/-- A value of a key that is there already makes its value a list. -/
def addHeader (d : Headers) (k v : PyStr) : Headers :=
  match d.get? k with
  | some (.many values) => d.set k (.many (values ++ [v]))
  | some (.one value) => d.set k (.many [value, v])
  | none => d.set k (.one v)

/-- The text of the next line. -/
def headerLine (f : Bytes) : PyStr := decodeAscii (stripBytes (readline f).1)

theorem readline_shorter {f : Bytes} (present : headerLine f ≠ []) :
    (readline f).2.length < f.length := by
  have total := readline_length f
  have line : (readline f).1 ≠ [] := by
    intro empty
    unfold headerLine at present
    rw [empty] at present
    exact present rfl
  have positive := List.length_pos_iff.mpr line
  omega

def parseHeaders (d : Headers) (f : Bytes) :
    Except PyError (Headers × Bytes) :=
  if headerLine f = [] then .ok (d, (readline f).2)
  else do
    let header ← headerOfLine (headerLine f)
    parseHeaders (addHeader d header.1 header.2) (readline f).2
termination_by f.length
decreasing_by exact readline_shorter (by assumption)

def decimalInt (n : Int) : PyStr :=
  if n < 0 then '-' :: decimal n.natAbs else decimal n.natAbs

def intOfText (text : PyStr) : Except PyError Int :=
  if TooManyDigits text then
    .error (.other "ValueError"
      ("Exceeds the limit (4300 digits) for integer string conversion: ".toList
        ++ "value has ".toList ++ decimal (literalDigits text) ++
        " digits; use sys.set_int_max_str_digits() to increase the limit".toList))
  else
    match parseInt 10 text with
    | some value => .ok value
    | none => .error (.other "ValueError"
        ("invalid literal for int() with base 10: ".toList ++ reprText text))

/-- `f.readline().split(None, 1)[0]` -/
def chunkSizeWord (f : Bytes) : Option Bytes :=
  (wordsUpTo isSpaceByte 1 (readline f).1).head?

/-- The number of the size line, if it is one. -/
def chunkSize (f : Bytes) : Except PyError Int :=
  match chunkSizeWord f with
  | none => .error (.unpackError "missing chunk size".toList)
  | some sz =>
      match parseInt 16 (decodeLatin1 sz) with
      | none => .error (.unpackError "invalid chunk size".toList)
      | some n => .ok n

/-- The end of the loop: `found_end` is set by the chunk of size 0, with which
the loop always ends. -/
def endChunks (n : Int) (f : Bytes) : Except PyError (Bytes × Bytes) :=
  if n = 0 then .ok ([], f)
  else .error (.needData "premature end of chunked body".toList)

theorem chunkSize_line {f : Bytes} {n : Int} (sized : chunkSize f = .ok n) :
    (readline f).1 ≠ [] := by
  intro empty
  unfold chunkSize chunkSizeWord at sized
  rw [empty, wordsUpTo_nil] at sized
  cases sized

/-- `f.read(n)` for a number that was parsed from text. -/
def readCount (f : Bytes) (n : Int) : Except PyError (Bytes × Bytes) :=
  if -2 ^ 63 ≤ n ∧ n < 2 ^ 63 then .ok (readFile f n)
  else .error (.other "OverflowError"
    "cannot fit 'int' into an index-sized integer".toList)

theorem readCount_append {f : Bytes} {n : Int} {data : Bytes × Bytes}
    (read : readCount f n = .ok data) : data.1 ++ data.2 = f := by
  unfold readCount at read
  split at read
  · rw [Except.ok.injEq] at read
    rw [← read]
    exact readFile_append f n
  · cases read

theorem chunk_shorter {f : Bytes} {n : Int} {data : Bytes × Bytes}
    (sized : chunkSize f = .ok n)
    (read : readCount (readline f).2 n = .ok data) :
    data.1.length + (readline data.2).2.length < f.length := by
  have positive := List.length_pos_iff.mpr (chunkSize_line sized)
  have first := readline_length f
  have second := congrArg List.length (readCount_append read)
  have third := readline_length data.2
  rw [List.length_append] at second
  omega

/-- The loop over the chunks, which yields what they join to and what is left
of the file. -/
def parseChunks (f : Bytes) : Except PyError (Bytes × Bytes) :=
  match _sized : chunkSize f with
  | .error problem => .error problem
  | .ok n =>
      match _read : readCount (readline f).2 n with
      | .error problem => .error problem
      | .ok data =>
          let behind := readline data.2
          if stripBytes behind.1 ≠ [] then endChunks n behind.2
          else if n ≠ 0 ∧ (data.1.length : Int) = n then do
            let rest ← parseChunks behind.2
            .ok (data.1 ++ rest.1, rest.2)
          else endChunks n behind.2
termination_by f.length
decreasing_by
  have shorter := chunk_shorter _sized _read
  omega

def transferEncoding : PyStr := "transfer-encoding".toList
def contentLength : PyStr := "content-length".toList
def contentType : PyStr := "content-type".toList

/-- `headers.get('transfer-encoding', '').lower() == 'chunked'` -/
def isChunked (headers : Headers) : Except PyError Bool :=
  match headers.get? transferEncoding with
  | none => .ok false
  | some (.one value) => .ok (lowerText value = "chunked".toList)
  | some (.many _) => .error .attributeError

def parseBody (f : Bytes) (headers : Headers) :
    Except PyError (Bytes × Bytes) := do
  let chunked ← isChunked headers
  if chunked then parseChunks f
  else
    match headers.get? contentLength with
    | some (.many _) => .error .typeError
    | some (.one value) => do
        let n ← intOfText value
        let body ← readCount f n
        if (body.1.length : Int) ≠ n then
          .error (.needData ("short body (missing ".toList ++
            decimalInt (n - body.1.length) ++ " bytes)".toList))
        else .ok body
    | none =>
        if headers.contains contentType then .ok (f, [])
        else .ok ([], f)

/-- The fields that `Request` and `Response` have in front of the headers. -/
inductive StartLine where
  | request (method uri version : PyStr)
  | response (version status reason : PyStr)
deriving DecidableEq, Repr

/-- The two classes of messages. -/
inductive MessageClass where
  | request
  | response
deriving DecidableEq, Repr

def proto : PyStr := ['H', 'T', 'T', 'P']

def methods : List PyStr :=
  ["GET", "PUT", "ICY", "COPY", "HEAD", "LOCK", "MOVE", "POLL", "POST",
    "BCOPY", "BMOVE", "MKCOL", "TRACE", "LABEL", "MERGE", "DELETE", "SEARCH",
    "UNLOCK", "REPORT", "UPDATE", "NOTIFY", "BDELETE", "CONNECT", "OPTIONS",
    "CHECKIN", "PROPFIND", "CHECKOUT", "CCM_POST", "SUBSCRIBE", "PROPPATCH",
    "BPROPFIND", "BPROPPATCH", "UNCHECKOUT", "MKACTIVITY", "MKWORKSPACE",
    "UNSUBSCRIBE", "RPC_CONNECT", "VERSION-CONTROL",
    "BASELINE-CONTROL"].map String.toList

def Request.startLine (line : Bytes) : Except PyError StartLine :=
  let line := decodeAscii line
  match splitText (stripText line) with
  | method :: uri :: others =>
      if method ∉ methods then
        .error (.unpackError
          ("invalid http method: ".toList ++ reprText method))
      else
        match others with
        | [] => .ok (.request method uri ['0', '.', '9'])
        | version :: _ =>
            if proto.isPrefixOf version then
              .ok (.request method uri (version.drop (proto.length + 1)))
            else
              .error (.unpackError
                ("invalid http version: ".toList ++ reprText version))
  | _ =>
      .error (.unpackError ("invalid request: ".toList ++ reprText line))

def bodyAllowed (status : PyStr) : Except PyError Bool := do
  let status ← intOfText status
  .ok (200 ≤ status ∧ 204 ≠ status ∧ status ≠ 304)

def Response.startLine (line : Bytes) : Except PyError StartLine :=
  let invalid : PyError :=
    .unpackError ("invalid response: ".toList ++ reprBytes line)
  match wordsUpTo isStrSpace 2 (decodeAscii (stripBytes line)) with
  | version :: status :: others =>
      if ¬proto.isPrefixOf version ∨ ¬isDigitText status then .error invalid
      else
        .ok (.response (version.drop (proto.length + 1)) status
          (match others with
          | [] => []
          | reason :: _ => reason))
  | _ => .error invalid

def MessageClass.startLine : MessageClass → Bytes → Except PyError StartLine
  | .request => Request.startLine
  | .response => Response.startLine

@[simp] theorem MessageClass.startLine_request :
    MessageClass.request.startLine = Request.startLine := rfl

@[simp] theorem MessageClass.startLine_response :
    MessageClass.response.startLine = Response.startLine := rfl

def StartLine.isBodyAllowed : StartLine → Except PyError Bool
  | .request _ _ _ => .ok true
  | .response _ status _ => bodyAllowed status

structure Message where
  start : StartLine
  headers : Headers
  body : Bytes
  data : Bytes
deriving DecidableEq

/-- `Message.unpack`: headers, body, and the rest. -/
def Message.unpack (start : StartLine) (isBodyAllowed : Bool) (buf : Bytes) :
    Except PyError Message := do
  let (headers, f) ← parseHeaders Dict.empty buf
  let (body, f) ←
    (if isBodyAllowed then parseBody f headers else .ok ([], f))
  .ok { start := start, headers := headers, body := body, data := f }

def MessageClass.parse (kind : MessageClass) (buf : Bytes) :
    Except PyError Message := do
  let start ← kind.startLine (readline buf).1
  let isBodyAllowed ← start.isBodyAllowed
  Message.unpack start isBodyAllowed (readline buf).2

def HeaderValue.text : HeaderValue → PyStr
  | .one value => value
  | .many values => reprList values

/-- `'%s: %s\r\n' % t` -/
def headerText (entry : PyStr × HeaderValue) : PyStr :=
  entry.1 ++ [':', ' '] ++ entry.2.text ++ ['\r', '\n']

def packHdr (headers : Headers) : PyStr := headers.entries.flatMap headerText

/-- `'%s %s %s/%s\r\n'` and `'%s/%s %s %s\r\n'` -/
def StartLine.text : StartLine → PyStr
  | .request method uri version =>
      method ++ [' '] ++ uri ++ [' '] ++ proto ++ ['/'] ++ version ++
        ['\r', '\n']
  | .response version status reason =>
      proto ++ ['/'] ++ version ++ [' '] ++ status ++ [' '] ++ reason ++
        ['\r', '\n']

def Message.bytes (message : Message) : Bytes :=
  encodeAscii message.start.text ++
    (encodeAscii (packHdr message.headers) ++ [0x0d, 0x0a] ++
      message.body)

end DpktNg.Http
