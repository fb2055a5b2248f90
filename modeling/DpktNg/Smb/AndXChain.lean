/-
Chains of AndX commands, and how far `SMB` follows them.
-/

import DpktNg.Smb.Message

namespace DpktNg.Smb

open Library

/-! ### Chains -/

/-- An AndX command of a chain, without the place of the next one. -/
structure AndXLink where
  code : Nat
  cls : CommandClass
  rsv : Nat
  /-- The parameters behind those of AndX. -/
  words : Bytes
  data : Bytes
  registered : cmdsw.lookup code = some cls
  isAndX : cls.IsAndX
  rsvFits : rsv < 256
  even : words.length % 2 = 0
  wordsFit : 2 + words.length / 2 < 256
  dataFits : data.length < 256 ^ 2

namespace AndXLink

variable (link : AndXLink)

def wordCount : Nat := 2 + link.words.length / 2

def size : Nat := 7 + link.words.length + link.data.length

/-- The parameters, with the command and the offset of the next one. -/
def params (command offset : Nat) : Bytes :=
  beBytes 1 command ++ (beBytes 1 link.rsv ++
    (ByteOrder.little.arrange (beBytes 2 offset) ++ link.words))

def bytes (command offset : Nat) : Bytes :=
  beBytes 1 link.wordCount ++ (link.params command offset ++
    (ByteOrder.little.arrange (beBytes 2 link.data.length) ++ link.data))

end AndXLink

/-- The commands from `offset` on, each with the place of the next one from the
start of the header. -/
def chainBytes (lastOffset : Nat) : Nat → List AndXLink → Bytes
  | _, [] => []
  | _, [last] => last.bytes 0xff lastOffset
  | offset, link :: next :: rest =>
      link.bytes next.code (offset + link.size) ++
        chainBytes lastOffset (offset + link.size) (next :: rest)

/-- Where each command begins, with its class. -/
def chainPlaces : Nat → List AndXLink → List (CommandClass × Nat)
  | _, [] => []
  | offset, link :: rest =>
      (link.cls, offset) :: chainPlaces (offset + link.size) rest

/-- A message that is a chain of AndX commands. -/
structure AndXMessage where
  header : SMBHeader
  first : AndXLink
  rest : List AndXLink
  lastOffset : Nat
  headerFits : SMBHeader.format.Fits header
  cmd_eq : header.cmd = first.code
  lastFits : lastOffset < 256 ^ 2
  /-- The places of all commands fit the field for them. -/
  placesFit : ∀ place ∈ chainPlaces 32 (first :: rest), place.2 < 256 ^ 2

namespace AndXMessage

variable (message : AndXMessage)

def links : List AndXLink := message.first :: message.rest

def bytes : Bytes :=
  SMBHeader.format.bytes .little message.header ++
    chainBytes message.lastOffset 32 message.links

/-- Every command of the chain is found, each parsed from its own place. -/
def Followed : Prop :=
  ∃ smb, SMB.Returns message.bytes (.ok smb) ∧
    List.Forall₂ (fun place cmd =>
      place.1.parse (message.bytes.drop place.2) = .ok cmd)
      (chainPlaces 32 message.links) smb.commands

end AndXMessage

/-! ### One command -/

theorem code_lt {code : Nat} {cls : CommandClass}
    (registered : cmdsw.lookup code = some cls) : code < 0xff := by
  have small : ∀ entry ∈ cmdsw, entry.1 < 0xff := by decide
  obtain ⟨before, behind, same, _first⟩ := List.lookup_eq_some_iff.mp registered
  apply small (code, cls)
  rw [same]
  exact List.mem_append_right _ List.mem_cons_self

theorem CommandParts.unpack_parts {wordCount : Nat} {params data : Bytes}
    (countFits : wordCount < 256) (sized : params.length = wordCount * 2)
    (dataFits : data.length < 256 ^ 2) (behind : Bytes) :
    CommandParts.unpack (beBytes 1 wordCount ++ params ++
        (ByteOrder.little.arrange (beBytes 2 data.length) ++
          (data ++ behind))) =
      .ok { wordCount, params, byteCount := data.length, rawData := data } := by
  have count : (ByteOrder.little.arrange (beBytes 2 data.length)).length = 2 := by
    rw [ByteOrder.arrange_length, beBytes_length]
  have front : (beBytes 1 wordCount ++ params).length = 1 + wordCount * 2 := by
    rw [List.length_append, beBytes_length, sized]
  have first : byteAt (beBytes 1 wordCount ++ params ++
      (ByteOrder.little.arrange (beBytes 2 data.length) ++
        (data ++ behind))) 0 = .ok wordCount := by
    rw [List.append_assoc, byteAt_front countFits]
  have counted : (beBytes 1 wordCount ++ params ++
      ByteOrder.little.arrange (beBytes 2 data.length)).length =
      1 + wordCount * 2 + 2 := by
    rw [List.length_append, front, count]
  have dataCut := @cut_middle _ data _ _ counted rfl behind
  rw [List.append_assoc, List.append_assoc] at dataCut
  unfold CommandParts.unpack
  rw [first, ok_bind]
  dsimp only
  rw [cut_behind front le_rfl, Nat.sub_self, Nat.add_sub_cancel_left,
    cut_front count, ByteOrder.unpackInt_arrange _ dataFits, ok_bind,
    cut_middle (beBytes_length 1 wordCount) (by rw [sized]), dataCut]

namespace AndXLink

variable {link : AndXLink} {command offset : Nat}

theorem params_length (link : AndXLink) (command offset : Nat) :
    (link.params command offset).length = 4 + link.words.length := by
  unfold params
  simp only [List.length_append, beBytes_length, ByteOrder.arrange_length]
  omega

theorem bytes_length (link : AndXLink) (command offset : Nat) :
    (link.bytes command offset).length = link.size := by
  have params := link.params_length command offset
  unfold bytes size
  simp only [List.length_append, beBytes_length, ByteOrder.arrange_length,
    params]
  omega

theorem unpack_bytes (behind : Bytes) :
    CommandParts.unpack (link.bytes command offset ++ behind) =
      .ok
        { wordCount := link.wordCount
          params := link.params command offset
          byteCount := link.data.length
          rawData := link.data } := by
  have even := link.even
  have sized : (link.params command offset).length = link.wordCount * 2 := by
    have params := link.params_length command offset
    unfold AndXLink.wordCount
    omega
  unfold bytes
  rw [List.append_assoc, List.append_assoc, List.append_assoc,
    ← List.append_assoc]
  exact CommandParts.unpack_parts link.wordsFit sized link.dataFits behind

theorem read_params (commandFits : command < 256) (offsetFits : offset < 256 ^ 2) :
    AndX.read (link.params command offset) =
      { command, rsv := some link.rsv, offset } := by
  have params := link.params_length command offset
  have count : (ByteOrder.little.arrange (beBytes 2 offset)).length = 2 := by
    rw [ByteOrder.arrange_length, beBytes_length]
  have commandRead : paramByte (link.params command offset) 0 = command :=
    count_toNat commandFits
  have rsvRead : paramByte (link.params command offset) 1 = link.rsv :=
    count_toNat link.rsvFits
  have offsetRead : paramInt (link.params command offset) 2 4 = offset := by
    unfold paramInt AndXLink.params
    rw [cut_behind (beBytes_length 1 command) (by decide),
      cut_behind (beBytes_length 1 link.rsv) (by decide), cut_front count,
      ByteOrder.nat_arrange, beNat_beBytes offsetFits]
  unfold AndX.read
  rw [if_pos (by omega), commandRead, rsvRead, offsetRead]

theorem parse_bytes (commandFits : command < 256) (offsetFits : offset < 256 ^ 2)
    (behind : Bytes) {cmd : Command} :
    link.cls.parse (link.bytes command offset ++ behind) = .ok cmd ↔
      cmd =
        { cls := link.cls
          parts :=
            { wordCount := link.wordCount
              params := link.params command offset
              byteCount := link.data.length
              rawData := link.data }
          andx := { command, rsv := some link.rsv, offset }
          body := link.cls.readBody
            { wordCount := link.wordCount
              params := link.params command offset
              byteCount := link.data.length
              rawData := link.data } } := by
  rw [CommandClass.parse_eq_ok, unpack_bytes]
  constructor
  · rintro ⟨parts, same, rfl⟩
    rw [Except.ok.injEq] at same
    rw [← same, if_pos link.isAndX, read_params commandFits offsetFits]
  · rintro rfl
    refine ⟨_, rfl, ?_⟩
    rw [if_pos link.isAndX, read_params commandFits offsetFits]

end AndXLink

/-! ### Chains in a buffer -/

/-- The buffer ends with the commands from the place on. -/
structure ChainAt (buf : Bytes) (lastOffset place : Nat)
    (links : List AndXLink) : Prop where
  inside : place ≤ buf.length
  behind : buf.drop place = chainBytes lastOffset place links
  lastFits : lastOffset < 256 ^ 2
  placesFit : ∀ at_ ∈ chainPlaces place links, at_.2 < 256 ^ 2

/-- The commands are parsed from their own places. -/
def Own (buf : Bytes) (place : Nat) (links : List AndXLink)
    (cmds : List Command) : Prop :=
  List.Forall₂ (fun at_ cmd => at_.1.parse (buf.drop at_.2) = .ok cmd)
    (chainPlaces place links) cmds

section

variable {buf : Bytes} {lastOffset place : Nat} {link next : AndXLink}
  {rest : List AndXLink} {cmd : Command}

theorem ChainAt.size (chain : ChainAt buf lastOffset place (link :: rest))
    (own : link.cls.parse (buf.drop place) = .ok cmd) :
    1 + cmd.parts.params.length + 2 + cmd.parts.rawData.length =
      link.size := by
  have behind := chain.behind
  cases rest with
  | nil =>
      rw [chainBytes, ← List.append_nil (link.bytes _ _)] at behind
      rw [behind, AndXLink.parse_bytes (by decide) chain.lastFits] at own
      rw [own]
      have params := link.params_length 0xff lastOffset
      dsimp only
      rw [params]
      unfold AndXLink.size
      omega
  | cons next rest =>
      have fits : place + link.size < 256 ^ 2 :=
        chain.placesFit (next.cls, _) (by simp [chainPlaces])
      have code := code_lt next.registered
      rw [chainBytes] at behind
      rw [behind, AndXLink.parse_bytes (by omega) fits] at own
      rw [own]
      have params := link.params_length next.code (place + link.size)
      dsimp only
      rw [params]
      unfold AndXLink.size
      omega

theorem ChainAt.last_parse (chain : ChainAt buf lastOffset place [link]) :
    link.cls.parse (buf.drop place) = .ok cmd ↔
      link.cls.parse (link.bytes 0xff lastOffset ++ []) = .ok cmd := by
  rw [chain.behind, chainBytes, List.append_nil]

theorem ChainAt.last (chain : ChainAt buf lastOffset place [link])
    (own : link.cls.parse (buf.drop place) = .ok cmd) :
    cmd.andx.command = 0xff := by
  rw [chain.last_parse, AndXLink.parse_bytes (by decide) chain.lastFits] at own
  rw [own]

theorem ChainAt.last_exists (chain : ChainAt buf lastOffset place [link]) :
    ∃ cmd, link.cls.parse (buf.drop place) = .ok cmd := by
  rw [chain.behind, chainBytes, ← List.append_nil (link.bytes _ _)]
  exact ⟨_, (AndXLink.parse_bytes (by decide) chain.lastFits []).mpr rfl⟩

theorem ChainAt.last_end (chain : ChainAt buf lastOffset place [link]) :
    buf.length = place + link.size := by
  have inside := chain.inside
  have length := congrArg List.length chain.behind
  rw [chainBytes, List.length_drop, link.bytes_length] at length
  omega

theorem ChainAt.step (chain : ChainAt buf lastOffset place
      (link :: next :: rest))
    (own : link.cls.parse (buf.drop place) = .ok cmd) :
    cmd.andx.command = next.code ∧ cmd.andx.offset = place + link.size ∧
      ChainAt buf lastOffset (place + link.size) (next :: rest) := by
  have behind := chain.behind
  have inside := chain.inside
  have length := link.bytes_length next.code (place + link.size)
  have fits : place + link.size < 256 ^ 2 :=
    chain.placesFit (next.cls, _) (by simp [chainPlaces])
  have code := code_lt next.registered
  rw [chainBytes] at behind
  have rest_eq := congrArg (List.drop link.size) behind
  rw [List.drop_drop, List.drop_left' length] at rest_eq
  have sizes := congrArg List.length behind
  rw [List.length_drop, List.length_append, length] at sizes
  rw [behind, AndXLink.parse_bytes (by omega) fits] at own
  rw [own]
  exact ⟨rfl, rfl, by omega, rest_eq, chain.lastFits, fun at_ member =>
    chain.placesFit at_ (List.mem_cons_of_mem _ member)⟩

/-! ### Following -/

/-- The command that is added first was read where the loop stood, and the loop
goes on from there unless that was the only one. -/
theorem first_added {code offset : Nat} {cls : CommandClass}
    {commands others : List Command} (registered : cmdsw.lookup code = some cls)
    (returned : LoopReturns (chainRound buf)
      { offset, nextCmd := code, commands }
      (.ok (commands ++ cmd :: others))) :
    cls.parse (buf.drop offset) = .ok cmd ∧
      (others = [] ∨ LoopReturns (chainRound buf)
        { offset := offset + cmd.andx.offset
          nextCmd := cmd.andx.command
          commands := commands ++ [cmd] } (.ok (commands ++ cmd :: others))) := by
  cases outcome : chainRound buf { offset, nextCmd := code, commands } with
  | inl result =>
      rw [loopReturns_done outcome] at returned
      rw [← returned] at outcome
      rcases chainRound_done outcome with none | ⟨cls', cmd', found, parsed, same⟩
      · rw [List.append_right_eq_self] at none
        cases none
      · rw [registered, Option.some.injEq] at found
        rw [List.append_right_inj, List.cons.injEq] at same
        rw [found, same.1]
        exact ⟨parsed, .inl same.2⟩
  | inr next =>
      obtain ⟨cls', cmd', found, parsed, _positive, next_eq⟩ :=
        chainRound_next outcome
      rw [loopReturns_next outcome, next_eq] at returned
      have kept := chain_isPrefix returned
      dsimp only at kept
      rw [List.prefix_append_right_inj, List.cons_prefix_cons] at kept
      rw [registered, Option.some.injEq] at found
      rw [kept.1] at parsed returned
      rw [found]
      exact ⟨parsed, .inr returned⟩

/-- From an offset behind the place of the first command the commands of the
chain are not found: the last one would need more bytes than are left. -/
theorem not_own_behind {links : List AndXLink} {offset : Nat}
    {commands own : List Command}
    (chain : ChainAt buf lastOffset place (link :: links))
    (shifted : place < offset)
    (returned : LoopReturns (chainRound buf)
      { offset, nextCmd := link.code, commands } (.ok (commands ++ own)))
    (places : Own buf place (link :: links) own) : False := by
  induction links generalizing link place offset commands own with
  | nil =>
      obtain ⟨cmd, others, first, _none, rfl⟩ :=
        List.forall₂_cons_left_iff.mp places
      have here := (first_added link.registered returned).1
      have inside := CommandClass.parse_length here
      have size := chain.size first
      have whole := chain.last_end
      rw [List.length_drop] at inside
      unfold AndXLink.size at size whole
      omega
  | cons next rest ih =>
      obtain ⟨cmd, others, first, later, rfl⟩ :=
        List.forall₂_cons_left_iff.mp places
      obtain ⟨command, andxOffset, behind⟩ := chain.step first
      rcases (first_added link.registered returned).2 with none | goes
      · rw [none] at later
        cases later
      · rw [command, andxOffset, List.append_cons commands cmd others] at goes
        have further : place + link.size < offset + (place + link.size) := by
          omega
        exact ih behind further goes later

end

/-! ### Messages -/

namespace AndXMessage

variable (message : AndXMessage)

theorem unpackHdr_bytes :
    SMBHeader.format.unpackHdr .little message.bytes =
      .ok (message.header, chainBytes message.lastOffset 32 message.links) :=
  StructFormat.unpackHdr_bytes message.headerFits _

theorem chainAt :
    ChainAt message.bytes message.lastOffset 32 message.links where
  inside := by
    have length : (SMBHeader.format.bytes .little message.header).length = 32 :=
      StructFormat.bytes_length message.headerFits
    unfold bytes
    rw [List.length_append]
    omega
  behind := by
    have length : (SMBHeader.format.bytes .little message.header).length = 32 :=
      StructFormat.bytes_length message.headerFits
    unfold bytes
    rw [List.drop_left' length]
  lastFits := message.lastFits
  placesFit := message.placesFit

/-- A chain is followed completely exactly when it has a single command. -/
theorem followed_iff : message.Followed ↔ message.links.length = 1 := by
  have chain := message.chainAt
  have unpacked := message.unpackHdr_bytes
  unfold Followed
  simp only [SMB.returns_iff unpacked]
  unfold links at chain ⊢
  unfold chainStart
  rw [message.cmd_eq]
  constructor
  · rintro ⟨smb, ⟨_header, returned⟩, places⟩
    cases others : message.rest with
    | nil => rfl
    | cons next rest =>
        rw [others] at chain places
        obtain ⟨cmd, later, first, own, same⟩ :=
          List.forall₂_cons_left_iff.mp places
        rw [same] at returned
        obtain ⟨command, andxOffset, behind⟩ := chain.step first
        rw [← List.nil_append (cmd :: later)] at returned
        rcases (first_added message.first.registered returned).2 with
          none | goes
        · rw [none] at own
          cases own
        · rw [command, andxOffset, List.append_cons [] cmd later] at goes
          have further : 32 + message.first.size <
              32 + (32 + message.first.size) := by omega
          exact (not_own_behind behind further goes own).elim
  · intro single
    have alone : message.rest = [] := by
      rw [List.length_cons, Nat.succ_inj] at single
      exact List.eq_nil_of_length_eq_zero single
    rw [alone] at chain ⊢
    obtain ⟨cmd, own⟩ := chain.last_exists
    have leaves : chainRound message.bytes
        { offset := SMBHeader.format.size
          nextCmd := message.first.code
          commands := [] } = .inl (.ok [cmd]) := by
      unfold chainRound
      dsimp only
      rw [message.first.registered]
      have parsed : message.first.cls.parse
          (message.bytes.drop SMBHeader.format.size) = .ok cmd := own
      dsimp only
      rw [parsed]
      dsimp only
      rw [if_pos (.inl (chain.last own)), List.nil_append]
    exact ⟨{ header := message.header, commands := [cmd] },
      ⟨rfl, (loopReturns_done leaves).mpr rfl⟩, .cons own .nil⟩

end AndXMessage

/-- A chain is followed completely exactly when it has a single command; the
loop is left whatever the buffer. -/
theorem andXChain_followed_iff (message : AndXMessage) (buf : Bytes) :
    (message.Followed ↔ message.links.length = 1) ∧
      ∃ result, SMB.Returns buf result :=
  ⟨message.followed_iff, SMB.returns buf⟩

theorem nothing_fits : ([] : Bytes).length < 256 ^ 2 := by decide

theorem zero_fits : 0 < 256 ^ 2 := by decide

def logoff : AndXLink where
  code := 0x70
  cls := .logoffAndX
  rsv := 0
  words := []
  data := []
  registered := rfl
  isAndX := trivial
  rsvFits := by decide
  even := rfl
  wordsFit := by decide
  dataFits := nothing_fits

def logoffChain : AndXMessage where
  header :=
    { proto := 0xff :: asciiBytes "SMB"
      cmd := 0x70
      status := 0
      flags := 0
      flags2 := 0
      pidhi := 0
      security := zeros 8
      rsvd := 0
      tid := 0
      pidlo := 0
      uid := 0
      mid := 0 }
  first := logoff
  rest := [logoff]
  lastOffset := 0
  headerFits := by decide
  cmd_eq := rfl
  lastFits := zero_fits
  placesFit := by decide

/-- Of two commands one is found: the second is looked for behind the end. -/
theorem logoffChain_cut :
    logoffChain.links.length = 2 ∧
      (∃ smb, SMB.Returns logoffChain.bytes (.ok smb) ∧
        smb.commands.length = 1) ∧
      ¬logoffChain.Followed := by
  refine ⟨rfl, ⟨_, ⟨2, rfl⟩, rfl⟩, ?_⟩
  rw [logoffChain.followed_iff]
  decide

end DpktNg.Smb
