/-
Serialising a parsed IPv6 packet whose payload stayed raw.

Every header is written again from the part of the buffer it kept.  An ESP
header has no next-header value to write, a routing header of odd length keeps
eight bytes too few, and an authentication header keeps all that follows it.
-/

import DpktNg.Inet.Ip6

namespace DpktNg.Inet

open Library

/-! ### What the headers keep -/

/-- The parts of the buffer that the headers keep, one header after another,
and what is left behind the last one. -/
def keptBytes (buf : Bytes) : List ExtHdr → Bytes
  | [] => buf
  | ext :: rest => ext.kept buf ++ keptBytes (buf.drop ext.length) rest

/-- A routing header of odd length with bytes in the eight it leaves out. -/
def ExtHdr.Loses (buf : Bytes) : ExtHdr → Prop
  | .routing _ len .. => len % 2 = 1 ∧ len * 8 < buf.length
  | _ => False

/-- An authentication header with bytes behind it. -/
def ExtHdr.Repeats (buf : Bytes) : ExtHdr → Prop
  | .ah _ len .. => (len + 2) * 4 < buf.length
  | _ => False

/-- Some header of the chain has the property, at its own place. -/
def SomeHeader (P : Bytes → ExtHdr → Prop) : Bytes → List ExtHdr → Prop
  | _, [] => False
  | buf, ext :: rest => P buf ext ∨ SomeHeader P (buf.drop ext.length) rest

/-- No header of the chain loses or repeats bytes. -/
def Intact (buf : Bytes) (exts : List ExtHdr) : Prop :=
  ¬SomeHeader ExtHdr.Loses buf exts ∧ ¬SomeHeader ExtHdr.Repeats buf exts

section Kept

variable {buf : Bytes} {ext : ExtHdr} (hasNext : ext.nxt? ≠ none)

include hasNext

theorem ExtHdr.kept_eq_take (keeps : ¬ext.Loses buf)
    (once : ¬ext.Repeats buf) : ext.kept buf = buf.take ext.length := by
  cases ext with
  | opts nxt len options data => rfl
  | routing nxt len type segsLeft rsvdSlBits addresses data =>
      simp only [Loses, not_and, not_lt] at keeps
      simp only [kept, length]
      by_cases odd : len % 2 = 1
      · have short := keeps odd
        rw [List.take_of_length_le (by omega), List.take_of_length_le (by omega)]
      · congr 1
        omega
  | fragment nxt resv fragOffResvM id => rfl
  | ah nxt len resv spi seq authData data =>
      simp only [Repeats, not_lt] at once
      simp only [kept, length]
      rw [List.take_of_length_le once]
  | esp spi seq data => exact absurd rfl hasNext

/-- Without repetition a header keeps at most its own bytes. -/
theorem ExtHdr.kept_length_le (once : ¬ext.Repeats buf) :
    (ext.kept buf).length ≤ (buf.take ext.length).length ∧
      (ext.Loses buf → (ext.kept buf).length < (buf.take ext.length).length) := by
  by_cases loses : ext.Loses buf
  · cases ext with
    | routing nxt len type segsLeft rsvdSlBits addresses data =>
        simp only [Loses] at loses
        simp only [kept, length, List.length_take]
        exact ⟨by omega, fun _ => by omega⟩
    | opts nxt len options data => exact absurd loses not_false
    | fragment nxt resv fragOffResvM id => exact absurd loses not_false
    | ah nxt len resv spi seq authData data => exact absurd loses not_false
    | esp spi seq data => exact absurd rfl hasNext
  · rw [ExtHdr.kept_eq_take hasNext loses once]
    exact ⟨Nat.le_refl _, fun again => absurd again loses⟩

/-- Without losses it keeps at least its own bytes. -/
theorem ExtHdr.length_le_kept (keeps : ¬ext.Loses buf) :
    (buf.take ext.length).length ≤ (ext.kept buf).length ∧
      (ext.Repeats buf →
        (buf.take ext.length).length < (ext.kept buf).length) := by
  by_cases again : ext.Repeats buf
  · cases ext with
    | ah nxt len resv spi seq authData data =>
        simp only [Repeats] at again
        simp only [kept, length, List.length_take]
        exact ⟨by omega, fun _ => by omega⟩
    | opts nxt len options data => exact absurd again not_false
    | routing nxt len type segsLeft rsvdSlBits addresses data =>
        exact absurd again not_false
    | fragment nxt resv fragOffResvM id => exact absurd again not_false
    | esp spi seq data => exact absurd rfl hasNext
  · rw [ExtHdr.kept_eq_take hasNext keeps again]
    exact ⟨Nat.le_refl _, fun repeats => absurd repeats again⟩

end Kept

section Chain

variable {buf : Bytes} {exts : List ExtHdr}

theorem take_drop_length (buf : Bytes) (n : Nat) :
    (buf.take n).length + (buf.drop n).length = buf.length := by
  rw [← List.length_append, List.take_append_drop]

theorem keptBytes_intact (hasNext : ∀ ext ∈ exts, ext.nxt? ≠ none)
    (intact : Intact buf exts) : keptBytes buf exts = buf := by
  induction exts generalizing buf with
  | nil => rfl
  | cons ext rest ih =>
      obtain ⟨keeps, once⟩ := intact
      simp only [SomeHeader, not_or] at keeps once
      have own := ExtHdr.kept_eq_take (hasNext ext List.mem_cons_self)
        keeps.1 once.1
      have others := ih
        (fun other member => hasNext other (List.mem_cons_of_mem ext member))
        ⟨keeps.2, once.2⟩
      rw [keptBytes, own, others, List.take_append_drop]

theorem keptBytes_length_le (hasNext : ∀ ext ∈ exts, ext.nxt? ≠ none)
    (once : ¬SomeHeader ExtHdr.Repeats buf exts) :
    (keptBytes buf exts).length ≤ buf.length ∧
      (SomeHeader ExtHdr.Loses buf exts →
        (keptBytes buf exts).length < buf.length) := by
  induction exts generalizing buf with
  | nil => exact ⟨Nat.le_refl _, fun impossible => absurd impossible not_false⟩
  | cons ext rest ih =>
      simp only [SomeHeader, not_or] at once ⊢
      obtain ⟨own, ownLess⟩ :=
        ExtHdr.kept_length_le (hasNext ext List.mem_cons_self) once.1
      obtain ⟨others, othersLess⟩ := ih
        (fun other member => hasNext other (List.mem_cons_of_mem ext member))
        once.2
      have whole := take_drop_length buf ext.length
      rw [keptBytes, List.length_append]
      refine ⟨by omega, ?_⟩
      intro loses
      rcases loses with here | later
      · have less := ownLess here
        omega
      · have less := othersLess later
        omega

theorem length_le_keptBytes (hasNext : ∀ ext ∈ exts, ext.nxt? ≠ none)
    (keeps : ¬SomeHeader ExtHdr.Loses buf exts) :
    buf.length ≤ (keptBytes buf exts).length ∧
      (SomeHeader ExtHdr.Repeats buf exts →
        buf.length < (keptBytes buf exts).length) := by
  induction exts generalizing buf with
  | nil => exact ⟨Nat.le_refl _, fun impossible => absurd impossible not_false⟩
  | cons ext rest ih =>
      simp only [SomeHeader, not_or] at keeps ⊢
      obtain ⟨own, ownMore⟩ :=
        ExtHdr.length_le_kept (hasNext ext List.mem_cons_self) keeps.1
      obtain ⟨others, othersMore⟩ := ih
        (fun other member => hasNext other (List.mem_cons_of_mem ext member))
        keeps.2
      have whole := take_drop_length buf ext.length
      rw [keptBytes, List.length_append]
      refine ⟨by omega, ?_⟩
      intro repeats
      rcases repeats with here | later
      · have more := ownMore here
        omega
      · have more := othersMore later
        omega

/-- The buffer comes back only from an intact chain, or from one that loses
bytes and repeats others that happen to be the same. -/
theorem keptBytes_eq_iff (hasNext : ∀ ext ∈ exts, ext.nxt? ≠ none) :
    keptBytes buf exts = buf ↔
      Intact buf exts ∨
        (SomeHeader ExtHdr.Loses buf exts ∧
          SomeHeader ExtHdr.Repeats buf exts ∧ keptBytes buf exts = buf) := by
  constructor
  · intro same
    have length := congrArg List.length same
    by_cases loses : SomeHeader ExtHdr.Loses buf exts
    · by_cases repeats : SomeHeader ExtHdr.Repeats buf exts
      · exact Or.inr ⟨loses, repeats, same⟩
      · have less := (keptBytes_length_le hasNext repeats).2 loses
        omega
    · by_cases repeats : SomeHeader ExtHdr.Repeats buf exts
      · have more := (length_le_keptBytes hasNext loses).2 repeats
        omega
      · exact Or.inl ⟨loses, repeats⟩
  · intro either
    rcases either with intact | ⟨_, _, same⟩
    · exact keptBytes_intact hasNext intact
    · exact same

end Chain

/-! ### The headers of a walk -/

/-- The protocol behind the chain: the one it started from, or the next-header
value of its last header. -/
def finalNxt (nxt : Option Nat) (exts : List ExtHdr) : Option Nat :=
  match exts.getLast? with
  | none => nxt
  | some last => last.nxt?

theorem finalNxt_cons (nxt : Option Nat) (ext : ExtHdr) (rest : List ExtHdr) :
    finalNxt nxt (ext :: rest) = finalNxt ext.nxt? rest := by
  cases rest with
  | nil => rfl
  | cons next others => rfl

/-- What the walk knows of its headers: they can be written again from what
they kept, and all but the last one have a next-header value. -/
structure WalkedFrom (nxt : Option Nat) (buf : Bytes) (walk : Walk) : Prop where
  final : walk.final = finalNxt nxt (walk.exts.map Prod.snd)
  chained : walk.final ≠ none →
    ∀ ext ∈ walk.exts.map Prod.snd, ext.nxt? ≠ none
  rewritten : ∃ pieces,
    (walk.exts.map Prod.snd).mapM ExtHdr.bytes = .ok pieces ∧
      pieces.flatten ++ walk.payload =
        keptBytes buf (walk.exts.map Prod.snd)

theorem walkedFrom_nil (nxt : Option Nat) (buf : Bytes) :
    WalkedFrom nxt buf { exts := [], final := nxt, payload := buf } where
  final := rfl
  chained := fun _ ext member => by cases member
  rewritten := ⟨[], rfl, rfl⟩

theorem walkExtHdrs_walkedFrom {nxt : Option Nat} {buf : Bytes} {walk : Walk}
    (walked : walkExtHdrs nxt buf = .ok walk) : WalkedFrom nxt buf walk := by
  fun_induction walkExtHdrs nxt buf generalizing walk with
  | case1 buf =>
      rw [Except.ok.injEq] at walked
      rw [← walked]
      exact walkedFrom_nil none buf
  | case2 buf proto isExt problem failed => cases walked
  | case3 buf proto isExt ext parsed problem failed ih => cases walked
  | case4 buf proto isExt ext parsed rest walkedRest ih =>
      rw [Except.ok.injEq] at walked
      obtain ⟨final, chained, pieces, written, joined⟩ := ih walkedRest
      have own := (parseExtHdr_readFrom parsed).rewritten
      have sameFinal : finalNxt (some proto) (ext :: rest.exts.map Prod.snd) =
          rest.final := by
        rw [finalNxt_cons, final]
      rw [← walked]
      refine
        { final := sameFinal.symm
          chained := ?_
          rewritten := ⟨ext.kept buf :: pieces, ?_, ?_⟩ }
      · intro hasFinal other member
        rcases List.mem_cons.mp member with here | later
        · rw [here]
          intro last
          rw [last] at walkedRest
          rw [walkExtHdrs, Except.ok.injEq] at walkedRest
          rw [← walkedRest] at hasFinal
          exact hasFinal rfl
        · exact chained hasFinal other later
      · rw [List.map_cons, List.mapM_cons, own, ok_bind, written, ok_bind]
        rfl
      · rw [List.flatten_cons, List.append_assoc, joined]
        rfl
  | case5 buf proto notExt =>
      rw [Except.ok.injEq] at walked
      rw [← walked]
      exact walkedFrom_nil (some proto) buf

/-! ### Parsing and serialising -/

/-- An upper layer whose packets are the transport packets or raw bytes. -/
def transportUpper
    (protosw : Nat → Option (Bytes → Except PyError Transport)) :
    Upper Transport :=
  ⟨protosw, .raw⟩

/-- What a parsed packet is made of. -/
structure ParsedAs (upper : Upper Transport) (buf : Bytes)
    (packet : IP6 Transport) (walk : Walk) : Prop where
  whole : 40 ≤ buf.length
  walked : walkExtHdrs (some (ip6Nxt buf)) (ip6Payload buf) = .ok walk
  hdr : packet.hdr =
    { vFcFlow := beNat (cut buf 0 4), plen := ip6Plen buf, nxt := ip6Nxt buf
      hlim := beNat (cut buf 7 8), src := cut buf 8 24, dst := cut buf 24 40 }
  dict : packet.extensionHdrs = extensionDict walk.exts
  exts : packet.allExtensionHeaders = walk.exts.map Prod.snd
  p : packet.p = walk.final
  data : ∃ fragment, upper.dataOf fragment walk = .ok packet.data

theorem IP6.parsedAs {upper : Upper Transport} {buf : Bytes}
    {packet : IP6 Transport} (parsed : IP6.parse upper buf = .ok packet) :
    ∃ walk, ParsedAs upper buf packet walk := by
  have unpacked := packetInit_eq_ok.mp parsed
  rw [IP6.unpack_eq] at unpacked
  split at unpacked
  · cases unpacked
  · rename_i enough
    obtain ⟨walk, walked, unpacked⟩ := bind_eq_ok.mp unpacked
    obtain ⟨fragment, _known, unpacked⟩ := bind_eq_ok.mp unpacked
    obtain ⟨data, decoded, done⟩ := bind_eq_ok.mp unpacked
    rw [Except.ok.injEq] at done
    refine ⟨walk, ?_⟩
    rw [← done]
    exact
      { whole := by omega
        walked := walked
        hdr := rfl
        dict := rfl
        exts := rfl
        p := rfl
        data := ⟨fragment, decoded⟩ }

theorem ip6_header_rewritten {buf : Bytes} (whole : 40 ≤ buf.length) :
    Ip6Hdr.bytes
      { vFcFlow := beNat (cut buf 0 4), plen := ip6Plen buf, nxt := ip6Nxt buf
        hlim := beNat (cut buf 7 8), src := cut buf 8 24
        dst := cut buf 24 40 } = .ok (buf.take 40) := by
  have numbers := @packHdr_fieldValues [4, 2, 1, 1] buf
    (by change 8 ≤ _; omega)
  have fields : [4, 2, 1, 1].zip (fieldValues [4, 2, 1, 1] (buf.take 8)) =
      [(4, beNat (cut buf 0 4)), (2, ip6Plen buf), (1, ip6Nxt buf),
        (1, beNat (cut buf 7 8))] := by
    simp [fieldValues, cut, ip6Plen, ip6Nxt, List.take_take, List.drop_take,
      List.drop_drop]
  change packHdr ([4, 2, 1, 1].zip (fieldValues [4, 2, 1, 1] (buf.take 8))) =
    .ok (buf.take 8) at numbers
  rw [fields] at numbers
  have src : (cut buf 8 24).length = 16 := by
    unfold cut
    rw [List.length_take, List.length_drop]
    omega
  have dst : (cut buf 24 40).length = 16 := by
    unfold cut
    rw [List.length_take, List.length_drop]
    omega
  unfold Ip6Hdr.bytes Ip6Hdr.fields
  dsimp only
  rw [numbers, ok_bind, packString_exact src, packString_exact dst,
    take_append_cut (by decide), take_append_cut (by decide)]

def ip6Bytes (buf : Bytes) : Bytes :=
  if ip6Plen buf ≠ 0 then buf.take (40 + ip6Plen buf) else buf

theorem ip6Bytes_eq (buf : Bytes) :
    ip6Bytes buf = buf.take 40 ++ ip6Payload buf := by
  unfold ip6Bytes ip6Payload
  split
  · rw [← List.take_add]
  · rw [List.take_append_drop]

theorem ip6Bytes_length_le (buf : Bytes) :
    (ip6Bytes buf).length ≤ buf.length := by
  unfold ip6Bytes
  split
  · rw [List.length_take]
    omega
  · exact Nat.le_refl _

section Rewritten

variable {protosw : Nat → Option (Bytes → Except PyError Transport)}
  {buf : Bytes} {packet : IP6 Transport} {walk : Walk}
  (made : ParsedAs (transportUpper protosw) buf packet walk)

include made

theorem ParsedAs.data_raw (unregistered : packet.p.bind protosw = none) :
    packet.data = .raw walk.payload := by
  obtain ⟨fragment, decoded⟩ := made.data
  rw [made.p] at unregistered
  unfold Upper.dataOf at decoded
  split at decoded
  · rw [Except.ok.injEq] at decoded
    exact decoded.symm
  · unfold Upper.decode at decoded
    have raw : walk.final.bind (transportUpper protosw).protosw = none :=
      unregistered
    rw [raw, Except.ok.injEq] at decoded
    exact decoded.symm

/-- `headers_str` of a parsed packet: the headers in their order, unless the
last one is an ESP header. -/
theorem ParsedAs.headersStr_eq {pieces : List Bytes}
    (written : (walk.exts.map Prod.snd).mapM ExtHdr.bytes = .ok pieces) :
    packet.headersStr = match walk.final with
      | none => .error .attributeError
      | some nxt => .ok (nxt, pieces.flatten) := by
  have final := (walkExtHdrs_walkedFrom made.walked).final
  unfold IP6.headersStr
  unfold finalNxt at final
  rw [made.exts, final]
  cases last : (walk.exts.map Prod.snd).getLast? with
  | some ext =>
      dsimp only
      cases ext.nxt? with
      | none => rfl
      | some nxt =>
          dsimp only
          rw [written]
          rfl
  | none =>
      have empty : walk.exts = [] :=
        List.map_eq_nil_iff.mp (List.getLast?_eq_none_iff.mp last)
      rw [empty] at written
      cases written
      rw [made.dict, made.hdr, empty]
      rfl

theorem ParsedAs.bytes_eq (unregistered : packet.p.bind protosw = none) :
    ∃ next, packet.bytes = match walk.final with
      | none => .error .attributeError
      | some _ => .ok (buf.take 40 ++
          keptBytes (ip6Payload buf) (walk.exts.map Prod.snd), next) := by
  obtain ⟨pieces, written, joined⟩ :=
    (walkExtHdrs_walkedFrom made.walked).rewritten
  have data := made.data_raw unregistered
  have header := ip6_header_rewritten made.whole
  rw [← made.hdr] at header
  unfold IP6.bytes
  rw [made.headersStr_eq written]
  cases walk.final with
  | none => exact ⟨packet, rfl⟩
  | some nxt =>
      refine ⟨{ packet with p := some nxt }, ?_⟩
      have unchanged : IP6.fillTransport { packet with p := some nxt } nxt =
          .ok { packet with p := some nxt } := by
        unfold IP6.fillTransport
        rw [if_neg]
        intro applies
        have empty := applies.2
        rw [data] at empty
        cases empty
      have payload : packet.data.bytes = .ok walk.payload := by
        rw [data]
        rfl
      rw [ok_bind]
      dsimp only
      rw [unchanged, ok_bind, header, ok_bind, payload, ok_bind, ← joined,
        List.append_assoc]

end Rewritten

/-- A parsed packet with a raw payload is written back as it was exactly when
its chain does not end in an ESP header and no header loses or repeats bytes,
one coincidence apart. -/
theorem ip6_rewritten_iff
    (protosw : Nat → Option (Bytes → Except PyError Transport)) (buf : Bytes)
    (packet : IP6 Transport)
    (parsed : IP6.parse (transportUpper protosw) buf = .ok packet)
    (unregistered : packet.p.bind protosw = none) :
    (∃ next, packet.bytes = .ok (ip6Bytes buf, next)) ↔
      packet.p ≠ none ∧
        (Intact (ip6Payload buf) packet.allExtensionHeaders ∨
          (SomeHeader ExtHdr.Loses (ip6Payload buf)
              packet.allExtensionHeaders ∧
            SomeHeader ExtHdr.Repeats (ip6Payload buf)
              packet.allExtensionHeaders ∧
            keptBytes (ip6Payload buf) packet.allExtensionHeaders =
              ip6Payload buf)) := by
  obtain ⟨walk, made⟩ := IP6.parsedAs parsed
  obtain ⟨next, written⟩ := made.bytes_eq unregistered
  have chained := (walkExtHdrs_walkedFrom made.walked).chained
  rw [written, made.exts, made.p, ip6Bytes_eq]
  cases final : walk.final with
  | none =>
      constructor
      · intro impossible
        obtain ⟨_, same⟩ := impossible
        cases same
      · intro impossible
        exact absurd rfl impossible.1
  | some nxt =>
      rw [final] at chained
      rw [← keptBytes_eq_iff (chained (Option.some_ne_none nxt))]
      constructor
      · intro same
        obtain ⟨_, same⟩ := same
        rw [Except.ok.injEq, Prod.mk.injEq] at same
        exact ⟨Option.some_ne_none nxt, List.append_cancel_left same.1⟩
      · intro same
        rw [same.2]
        exact ⟨next, rfl⟩

/-- A fragment header and two bytes of payload. -/
def fragmentBytes : Bytes :=
  [0x60, 0, 0, 0, 0, 10, 44, 64] ++ zeros 32 ++ [59, 0, 0, 0, 0, 0, 0, 7] ++
    [1, 2]

def fragmentPacket : IP6 Transport :=
  { hdr :=
      { vFcFlow := 0x60000000, plen := 10, nxt := 44, hlim := 64
        src := zeros 16, dst := zeros 16 }
    extensionHdrs := extensionDict [(44, .fragment 59 0 0 7)]
    allExtensionHeaders := [.fragment 59 0 0 7]
    p := some 59
    data := .raw [1, 2] }

theorem ip6_rewritten_iff_fragment :
    (∃ next, fragmentPacket.bytes = .ok (ip6Bytes fragmentBytes, next)) ↔
      fragmentPacket.p ≠ none ∧
        (Intact (ip6Payload fragmentBytes) fragmentPacket.allExtensionHeaders ∨
          (SomeHeader ExtHdr.Loses (ip6Payload fragmentBytes)
              fragmentPacket.allExtensionHeaders ∧
            SomeHeader ExtHdr.Repeats (ip6Payload fragmentBytes)
              fragmentPacket.allExtensionHeaders ∧
            keptBytes (ip6Payload fragmentBytes)
              fragmentPacket.allExtensionHeaders =
              ip6Payload fragmentBytes)) :=
  ip6_rewritten_iff (fun _ => none) fragmentBytes fragmentPacket
    (by decide +kernel) rfl

/-- An authentication header in front of four bytes, which are written
twice. -/
def authenticatedBytes : Bytes :=
  [0x60, 0, 0, 0, 0, 16, 51, 64] ++ zeros 32 ++
    [59, 1, 0, 0, 0, 0, 0, 0, 0, 0, 0, 0] ++ [1, 2, 3, 4]

theorem authenticated_payload_repeated :
    ¬∀ (protosw : Nat → Option (Bytes → Except PyError Transport))
      (buf : Bytes) (packet : IP6 Transport),
      IP6.parse (transportUpper protosw) buf = .ok packet →
      packet.p.bind protosw = none →
      ∃ next, packet.bytes = .ok (ip6Bytes buf, next) := by
  intro rewritten
  have emitted : (IP6.parse (transportUpper fun _ => none)
      authenticatedBytes >>= fun packet => packet.bytes.map Prod.fst) =
        .ok (authenticatedBytes ++ [1, 2, 3, 4]) := by
    decide +kernel
  cases parsed : IP6.parse (transportUpper fun _ => none)
      authenticatedBytes with
  | error problem =>
      rw [parsed] at emitted
      cases emitted
  | ok packet =>
      obtain ⟨next, written⟩ := rewritten (fun _ => none) authenticatedBytes
        packet parsed (by cases packet.p <;> rfl)
      rw [parsed, ok_bind, written, Except.map, Except.ok.injEq] at emitted
      have within := ip6Bytes_length_le authenticatedBytes
      dsimp only at emitted
      rw [emitted, List.length_append, List.length_cons] at within
      omega

/-- Eight bytes lost by a routing header and repeated by the authentication
header behind it. -/
example :
    let routing : Bytes := [51, 1, 0, 0, 0, 0, 0, 0]
    let block : Bytes := [59, 0, 0, 0, 0, 0, 0, 0]
    keptBytes (routing ++ block ++ block ++ block)
        [.routing 51 1 0 0 0 [] [], .ah 59 0 0 0 0 [] []] =
      routing ++ block ++ block ++ block := by
  decide

end DpktNg.Inet
