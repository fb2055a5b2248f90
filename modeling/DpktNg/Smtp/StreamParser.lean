/-
SMTP, dpkt/smtp.py: commands, responses, and the parser that is fed the stream.
-/

import DpktNg.Python.Lines
import DpktNg.Python.Struct

namespace DpktNg.Smtp

open Library

structure SMTPCommand where
  verb : Bytes
  args : Bytes
  deriving DecidableEq

def SMTPCommand.parse (raw : Bytes) : SMTPCommand :=
  { verb := (verbAndRest raw).1, args := stripBytes (verbAndRest raw).2 }

structure SMTPResponse where
  code : Nat
  /-- The lines without the code in front. -/
  lines : List Bytes
  isMultiline : Bool
  deriving DecidableEq

/-- A line behind the first, without the code of the response. -/
def laterLine (code : Nat) (line : Bytes) : Bytes :=
  if line.length ≥ 4 ∧ line.take 4 = decimalBytes code ++ asciiBytes " " then
    line.drop 4
  else if line.length ≥ 4 ∧
      line.take 4 = decimalBytes code ++ asciiBytes "-" then
    line.drop 4
  else line

def SMTPResponse.parse (raw : Bytes) : SMTPResponse :=
  match textLines raw with
  | [] => { code := 0, lines := [], isMultiline := false }
  | first :: later =>
      if startsWithCode first then
        let code := intOfDigits (first.take 3)
        let text := if first.length ≥ 4 then first.drop 4 else []
        { code := code
          lines := text :: later.map (laterLine code)
          isMultiline := first.length > 3 ∧ cut first 3 4 = asciiBytes "-" }
      else { code := 0, lines := [], isMultiline := false }

/-- The attributes of `SMTP` besides its buffer. -/
structure SMTPState where
  commands : List SMTPCommand
  responses : List SMTPResponse
  pendingLines : List Bytes

namespace SMTP

/-- The body of the loop of `_process`. -/
def processLine (state : SMTPState) (line : Bytes) : SMTPState :=
  let stripped := rstripLine line
  if stripped = [] then state
  else if startsWithCode stripped then
    let pending := state.pendingLines ++ [line]
    if (stripped.length > 3 ∧ cut stripped 3 4 = asciiBytes " ") ∨
        stripped.length = 3 then
      { state with
        responses := state.responses ++ [SMTPResponse.parse pending.flatten]
        pendingLines := [] }
    else { state with pendingLines := pending }
  else { state with commands := state.commands ++ [SMTPCommand.parse line] }

end SMTP

def smtpFeeder : Feeder SMTPState UInt8 := lineFeeder SMTP.processLine

abbrev SMTP := Fed SMTPState UInt8

namespace SMTP

def fresh : SMTP :=
  { state := { commands := [], responses := [], pendingLines := [] }
    buffer := [] }

def feed (parser : SMTP) (data : Bytes) : SMTP := smtpFeeder.feed parser data

def feedAll (parser : SMTP) (chunks : List Bytes) : SMTP :=
  chunks.foldl feed parser

theorem feedAll_eq_feed {stream : Bytes} (chunks : Cutting stream) :
    fresh.feedAll chunks.pieces = fresh.feed stream :=
  Feeder.feedAll_eq_feed _ chunks

end SMTP

end DpktNg.Smtp
