/-
The file carver of dpkt/filecarver.py: packets go to a stream reassembler, and
`carve` looks for files in what the reassembler has kept of every connection.

`MIMEParser.parse` and the SMB parsers stand as the parameter `Parsers`; the
HTTP and FTP extraction is the source's own.

The carver's reassembler runs in the default mode, in which `feed` reads both
directions of a connection after every packet; nobody is registered for the
data, so it is gone.  When `carve` reads the buffers they are empty.
-/

import DpktNg.Python.Bytes
import DpktNg.Python.Lines
import DpktNg.Stream.Reassembler
import DpktNg.Stream.ConnectionTable
import DpktNg.Stream.Reassembly

namespace DpktNg.Carving

open DpktNg.Library DpktNg.Stream

/-- The value of `_detect_protocol` and of `source_protocol`. -/
inductive Proto where
  | http
  | ftp
  | smtp
  | pop3
  | imap
  | smb
  | unknown
deriving DecidableEq, Repr

inductive Transfer where
  | download
  | upload
deriving DecidableEq, Repr

structure ExtractedFile where
  filename : PyStr
  content : Bytes
  sourceProtocol : Proto
  direction : Transfer := .download
  mimeType : PyStr := []
deriving DecidableEq, Repr

/-- The parsers that `carve` calls on the data of mail and SMB connections. -/
structure Parsers where
  /-- `MIMEParser.parse`: filename, content and MIME type -/
  mimeParse : Bytes → List (PyStr × Bytes × PyStr)
  /-- the files in an SMB2 or SMB message -/
  smbFiles : Bytes → List ExtractedFile

def detectProtocol (sport dport : Nat) : Proto :=
  let inPorts := fun port => port = sport ∨ port = dport
  if inPorts 80 ∨ inPorts 8080 then .http
  else if inPorts 21 then .ftp
  else if inPorts 25 ∨ inPorts 587 then .smtp
  else if inPorts 110 then .pop3
  else if inPorts 143 ∨ inPorts 993 then .imap
  else if inPorts 445 then .smb
  else .unknown

def headerEnd : Bytes := crlf ++ crlf

/-- `Content-Disposition:.*filename="?([^"\r\n]+)"?` -/
def dispositionFilename : Pattern Bytes :=
  searchBytes (literalThen (asciiBytes "Content-Disposition:")
    (greedyThen (fun byte => byte ≠ 0x0a)
      (literalThen (asciiBytes "filename=") optionallyQuoted)))

/-- `Content-Type:\s*([^\r\n;]+)` -/
def contentType : Pattern Bytes :=
  searchBytes (literalThen (asciiBytes "Content-Type:")
    (greedyThen isSpaceByte untilSemicolon))

/-- The files that `_carve_http_response` appends.  A content type that is not
UTF-8 raises, and the exception is swallowed before the file is appended. -/
def carveHttpResponse (data : Bytes) (direction : Transfer) :
    List ExtractedFile :=
  match findBytes headerEnd data with
  | none => []
  | some index =>
      let headers := data.take index
      let body := data.drop (index + 4)
      let filename :=
        match dispositionFilename headers with
        | some value => decodeLatin1 value
        | none => "http_download".toList
      let mime :=
        match contentType headers with
        | some value => decodeUtf8 value
        | none => some []
      match mime with
      | none => []
      | some mimeType =>
          [{ filename, content := body, sourceProtocol := .http, direction,
             mimeType }]

def carveHttpRequest (data : Bytes) : List ExtractedFile :=
  if data.length < 10 then []
  else
    match findBytes headerEnd data, findBytes crlf data with
    | some index, some lineEnd =>
        let body := data.drop (index + 4)
        let firstLine := decodeLatin1 (data.take lineEnd)
        match body, firstLine.splitOn ' ' with
        | _ :: _, _method :: url :: _ =>
            let last :=
              if '/' ∈ url then (url.splitOn '/').getLastD []
              else "upload".toList
            let filename := if last = [] then "upload".toList else last
            [{ filename, content := body, sourceProtocol := .http
               direction := .upload }]
        | _, _ => []
    | _, _ => []

def carveFtp (dataS2c : Bytes) (connId : ConnId) : List ExtractedFile :=
  if dataS2c = [] then []
  else
    [{ filename := "ftp_data_".toList ++ connId.1 ++ '_' ::
         (decimal connId.2.1 ++ ".bin".toList)
       content := dataS2c, sourceProtocol := .ftp }]

/-- `data[:data.rfind(b'\r\n.\r\n')]`, or all of it without a terminator. -/
def withoutTerminator (data : Bytes) : Bytes :=
  match rfindBytes (crlf ++ 0x2e :: crlf) data with
  | some index => data.take index
  | none => data

def attachments (parsers : Parsers) (proto : Proto) (email : Bytes) :
    List ExtractedFile :=
  (parsers.mimeParse email).map fun (filename, content, mimeType) =>
    { filename, content, sourceProtocol := proto, mimeType }

def emailBody (proto : Proto) (content : Bytes) : ExtractedFile :=
  { filename := "email_body".toList, content, sourceProtocol := proto }

def carveSmtp (parsers : Parsers) (data : Bytes) : List ExtractedFile :=
  if data.length < 50 then []
  else
    let body := withoutTerminator data
    if body.length > 10 then
      let files := attachments parsers .smtp body
      if files = [] then [emailBody .smtp body] else files
    else []

def carvePop3 (parsers : Parsers) (data : Bytes) : List ExtractedFile :=
  if data.length < 50 then []
  else
    let email := withoutTerminator data
    let files := attachments parsers .pop3 email
    if files = [] ∧ email.length > 20 then [emailBody .pop3 email] else files

def carveImap (parsers : Parsers) (data : Bytes) : List ExtractedFile :=
  if data.length < 50 then [] else attachments parsers .imap data

def carveSmb (parsers : Parsers) (data : Bytes) : List ExtractedFile :=
  if data.length < 4 then [] else parsers.smbFiles data

def carveStream (parsers : Parsers) (proto : Proto) (connId : ConnId)
    (dataC2s dataS2c : Bytes) : List ExtractedFile :=
  match proto with
  | .http =>
      if dataS2c ≠ [] then carveHttpResponse dataS2c .download
      else if dataC2s ≠ [] then carveHttpRequest dataC2s
      else []
  | .ftp => carveFtp dataS2c connId
  | .smtp => carveSmtp parsers dataC2s ++ carveSmtp parsers dataS2c
  | .pop3 => carvePop3 parsers dataC2s ++ carvePop3 parsers dataS2c
  | .imap => carveImap parsers dataC2s ++ carveImap parsers dataS2c
  | .smb => carveSmb parsers dataS2c ++ carveSmb parsers dataC2s
  | .unknown => []

structure FileCarver where
  files : List ExtractedFile := []
  streams : Dict ConnId Proto := .empty
  reasm : StreamReassembler := { maxConnections := 5000 }

namespace FileCarver

/-- `process_packet` for a packet that holds a TCP segment; any other packet
leaves the carver as it is. -/
def processPacket (carver : FileCarver) (pkt : TcpPacket) : FileCarver :=
  let proto := detectProtocol pkt.sport pkt.dport
  { carver with
    reasm := (carver.reasm.feed pkt).1
    streams :=
      if carver.streams.contains pkt.connId then carver.streams
      else carver.streams.set pkt.connId proto }

def carveConnection (parsers : Parsers) (carver : FileCarver)
    (entry : ConnId × Connection) : FileCarver :=
  let (connId, conn) := entry
  let (c2s, dataC2s) := conn.c2s.getData false
  let (s2c, dataS2c) := conn.s2c.getData false
  let proto := (carver.streams.get? connId).getD .unknown
  { carver with
    reasm := carver.reasm.store connId { conn with c2s, s2c }
    files := carver.files ++ carveStream parsers proto connId dataC2s dataS2c }

def carve (parsers : Parsers) (carver : FileCarver) : FileCarver :=
  carver.reasm.connections.entries.foldl (carveConnection parsers) carver

def machine : Machine FileCarver TcpPacket Unit :=
  ⟨fun carver pkt => (carver.processPacket pkt, ())⟩

end FileCarver

/-- Exactly one of the files has the given content. -/
def HasOneFile (files : List ExtractedFile) (content : Bytes) : Prop :=
  (files.filter fun file => file.content = content).length = 1

theorem carveStream_nothing (parsers : Parsers) (proto : Proto)
    (connId : ConnId) : carveStream parsers proto connId [] [] = [] := by
  cases proto <;> rfl

namespace FileCarver

theorem carveConnection_nothing (parsers : Parsers) (carver : FileCarver)
    {connId : ConnId} {conn : Connection} (isRead : conn.IsRead) :
    (carveConnection parsers carver (connId, conn)).files =
      carver.files := by
  have c2s : conn.c2s.getData false = (conn.c2s, []) :=
    getData_of_noContiguous (isRead .c2s)
  have s2c : conn.s2c.getData false = (conn.s2c, []) :=
    getData_of_noContiguous (isRead .s2c)
  unfold carveConnection
  dsimp only
  rw [c2s, s2c]
  dsimp only
  rw [carveStream_nothing, List.append_nil]

theorem foldl_carveConnection (parsers : Parsers)
    (entries : List (ConnId × Connection)) (carver : FileCarver)
    (isRead : ∀ entry ∈ entries, entry.2.IsRead) :
    (entries.foldl (carveConnection parsers) carver).files =
      carver.files := by
  induction entries generalizing carver with
  | nil => rfl
  | cons entry rest ih =>
      rw [List.foldl_cons, ih _ fun other member =>
        isRead other (List.mem_cons_of_mem entry member)]
      exact carveConnection_nothing parsers carver
        (isRead entry List.mem_cons_self)

/-- The carver feeds its reassembler and finds no file on the way. -/
theorem run_reasm (carver : FileCarver) (packets : List TcpPacket) :
    (machine.run carver packets).reasm =
        StreamReassembler.machine.run carver.reasm packets ∧
      (machine.run carver packets).files = carver.files := by
  induction packets generalizing carver with
  | nil => exact ⟨rfl, rfl⟩
  | cons pkt rest ih => exact ih (carver.processPacket pkt)

theorem carve_run_files (parsers : Parsers) (packets : List TcpPacket) :
    (carve parsers (machine.run {} packets)).files = [] := by
  obtain ⟨reasm, files⟩ := run_reasm {} packets
  have isRead := StreamReassembler.run_isRead { maxConnections := 5000 } rfl
    rfl (fun _entry impossible => by cases impossible) packets
  unfold carve
  rw [foldl_carveConnection parsers _ _ (by rw [reasm]; exact isRead), files]

/-- Whatever has been processed, `carve` returns no file. -/
theorem carve_finds_nothing (parsers : Parsers) (packets : List TcpPacket)
    (content : Bytes) :
    ¬HasOneFile (carve parsers (machine.run {} packets)).files content := by
  unfold HasOneFile
  rw [carve_run_files]
  intro one
  cases one

end FileCarver

/-- The endpoints of a connection on port 80 whose `s2c` side is the server. -/
structure HttpPeers where
  client : InAddr × Nat
  server : InAddr × Nat
  different : client ≠ server
  onPort80 : client.2 = 80 ∨ server.2 = 80
  serverLast : endpointLe (inetNtoa client.1, client.2)
    (inetNtoa server.1, server.2) = true

inductive HttpStep where
  | fromServer (start stop : Nat) (ack : Int) (flags : Nat)
      (noSyn : flags &&& thSyn = 0)
  | fromClient (seq ack : Int) (data : Bytes) (flags : Nat)
      (noSyn : flags &&& thSyn = 0)

namespace HttpPeers

def clientPacket (peers : HttpPeers) (seq ack : Int) (data : Bytes)
    (flags : Nat) : TcpPacket :=
  { src := peers.client.1, dst := peers.server.1, sport := peers.client.2
    dport := peers.server.2, seq, ack, flags, data }

def serverPacket (peers : HttpPeers) (seq ack : Int) (data : Bytes)
    (flags : Nat) : TcpPacket :=
  (peers.clientPacket seq ack data flags).swap

def toPacket (peers : HttpPeers) (stream : Bytes) (isn : Int) :
    HttpStep → TcpPacket
  | .fromServer start stop ack flags _ =>
      peers.serverPacket (isn + 1 + start) ack (slice stream start stop) flags
  | .fromClient seq ack data flags _ => peers.clientPacket seq ack data flags

end HttpPeers

/-- After both SYNs the server's stream is delivered whole, in slices. -/
def DeliversResponse (stream : Bytes) (packets : List TcpPacket) : Prop :=
  ∃ (peers : HttpPeers) (clientIsn isn : Int) (steps : List HttpStep),
    0 ≤ isn ∧ isn + 1 + stream.length ≤ 2 ^ 32 ∧
      packets = peers.clientPacket clientIsn 0 [] thSyn ::
        peers.serverPacket isn (clientIsn + 1) [] (thSyn + thAck) ::
          steps.map (peers.toPacket stream isn) ∧
      ∀ position < stream.length, ∃ start stop ack flags noSyn,
        HttpStep.fromServer start stop ack flags noSyn ∈ steps ∧
          position ∈ slicePositions stream start stop

/-- A response of one header byte and one body byte in a single segment. -/
theorem response_not_carved :
    ¬∀ (parsers : Parsers) (packets : List TcpPacket) (head body : Bytes),
      ¬headerEnd <:+: head →
      DeliversResponse (head ++ headerEnd ++ body) packets →
      HasOneFile
        (FileCarver.carve parsers (FileCarver.machine.run {} packets)).files
        body := by
  intro claimed
  let peers : HttpPeers :=
    { client := (⟨10, 0, 0, 1⟩, 1000)
      server := (⟨10, 0, 0, 2⟩, 80)
      different := by decide
      onPort80 := Or.inr rfl
      serverLast := by decide }
  have delivered : DeliversResponse ([0x48] ++ headerEnd ++ [0x42])
      (peers.clientPacket 100 0 [] thSyn ::
        peers.serverPacket 500 101 [] (thSyn + thAck) ::
          [HttpStep.fromServer 0 6 101 thAck rfl].map
            (peers.toPacket ([0x48] ++ headerEnd ++ [0x42]) 500)) := by
    refine ⟨peers, 100, 500, _, by decide, by decide, rfl, ?_⟩
    intro position within
    exact ⟨0, 6, 101, thAck, rfl, List.mem_cons_self, Nat.zero_le _, within,
      within⟩
  have one := claimed ⟨fun _ => [], fun _ => []⟩ _ [0x48] [0x42]
    (by decide) delivered
  unfold HasOneFile at one
  rw [FileCarver.carve_run_files] at one
  cases one

end DpktNg.Carving
