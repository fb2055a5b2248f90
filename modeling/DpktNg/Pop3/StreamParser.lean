/-
POP3, dpkt/pop3.py: commands, responses, and the parser that is fed the stream.
-/

import DpktNg.Python.Lines
import DpktNg.Python.Struct

namespace DpktNg.Pop3

open Library

structure POP3Command where
  verb : Bytes
  args : Bytes
  deriving DecidableEq

def POP3Command.parse (raw : Bytes) : POP3Command :=
  { verb := (verbAndRest raw).1, args := stripBytes (verbAndRest raw).2 }

structure POP3Response where
  ok : Bool
  text : Bytes
  lines : List Bytes
  isMultiline : Bool
  deriving DecidableEq

def okPrefix : Bytes := asciiBytes "+OK"

def errPrefix : Bytes := asciiBytes "-ERR"

def terminator : Bytes := asciiBytes "."

/-- The data lines up to the terminator, without the stuffed dots. -/
def dataLines : List Bytes → List Bytes
  | [] => []
  | line :: rest =>
      if line = terminator then []
      else
        (if (asciiBytes "..").isPrefixOf line then line.drop 1 else line) ::
          dataLines rest

def POP3Response.parse (raw : Bytes) : POP3Response :=
  let text := dropLineFeed (replaceCrlf raw)
  if okPrefix.isPrefixOf text ∨ errPrefix.isPrefixOf text then
    let allLines := text.splitOn 0x0a
    let status := (allLines.headD []).drop 4
    { ok := okPrefix.isPrefixOf text
      text :=
        if (asciiBytes " ").isPrefixOf status then status.drop 1 else status
      lines := dataLines allLines.tail
      isMultiline := allLines.length > 1 }
  else { ok := false, text := text, lines := [], isMultiline := false }

/-- The attributes of `POP3` besides its buffer. -/
structure POP3State where
  commands : List POP3Command
  responses : List POP3Response
  inMultiline : Bool
  mlBuffer : List Bytes
  pending : Option Bytes

/-- A line that starts with `+OK` or `-ERR`. -/
def isStatus (stripped : Bytes) : Bool :=
  okPrefix.isPrefixOf stripped || errPrefix.isPrefixOf stripped

namespace POP3

def respond (state : POP3State) (raw : Bytes) : POP3State :=
  { state with responses := state.responses ++ [POP3Response.parse raw] }

/-- The pending line becomes a response of its own. -/
def flushPending (state : POP3State) : POP3State :=
  match state.pending with
  | some held => { respond state held with pending := none }
  | none => state

/-- One more line of a multi-line response. -/
def addLine (state : POP3State) (stripped : Bytes) : POP3State :=
  let lines := state.mlBuffer ++ [stripped]
  if stripped = terminator then
    { respond state (crlf.intercalate lines ++ crlf) with
      mlBuffer := lines
      inMultiline := false }
  else { state with mlBuffer := lines }

/-- The body of the loop of `_process`. -/
def processLine (state : POP3State) (line : Bytes) : POP3State :=
  let stripped := rstripLine line
  if state.inMultiline then addLine state stripped
  else if isStatus stripped then
    if 0x20 ∉ stripped ∨ errPrefix.isPrefixOf stripped then
      respond (flushPending state) line
    else { flushPending state with pending := some line }
  else
    match state.pending with
    | some held =>
        -- the pending line begins a multi-line response
        addLine
          { state with
            inMultiline := true
            mlBuffer := [rstripLine held]
            pending := none }
          stripped
    | none =>
        { state with commands := state.commands ++ [POP3Command.parse line] }

/-- What `_process` does behind its loop. -/
def settle (state : POP3State) (buffer : Bytes) : POP3State :=
  if state.inMultiline = false ∧ buffer = [] then flushPending state else state

end POP3

def pop3Feeder : Feeder POP3State UInt8 := lineFeeder POP3.processLine

abbrev POP3 := Fed POP3State UInt8

namespace POP3

def fresh : POP3 :=
  { state :=
      { commands := []
        responses := []
        inMultiline := false
        mlBuffer := []
        pending := none }
    buffer := [] }

def feed (parser : POP3) (data : Bytes) : POP3 :=
  let fed := pop3Feeder.feed parser data
  { fed with state := settle fed.state fed.buffer }

def feedAll (parser : POP3) (chunks : List Bytes) : POP3 :=
  chunks.foldl feed parser

end POP3

end DpktNg.Pop3
