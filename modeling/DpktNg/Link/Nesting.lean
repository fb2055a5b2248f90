/-
A class only ever hands shorter buffers to the classes inside it, so parsing
ends, and the recursive equation of the parsers holds.
-/

import DpktNg.Link.Ethernet

namespace DpktNg.Link

open Library Inet

theorem guessType_suffix {type guessed : Nat} {buf data : Bytes}
    (guess : guessType type buf = .ok (guessed, data)) : data <:+ buf := by
  unfold guessType at guess
  cases buf with
  | nil => cases guess
  | cons byte rest =>
      dsimp only at guess
      split at guess
      · cases guess
        exact List.suffix_rfl
      · split at guess
        · cases guess
          exact List.suffix_rfl
        · split at guess
          · cases guess
            split
            · exact List.drop_suffix 4 _
            · exact List.suffix_rfl
          · cases guess
            exact List.suffix_rfl

theorem stripStack_suffix {nextType next : Option Nat} {buf data : Bytes}
    {stack : Stack}
    (stripped : stripStack nextType buf = .ok (stack, next, data)) :
    data <:+ buf := by
  unfold stripStack at stripped
  split at stripped
  · cases stripped
    exact List.suffix_rfl
  · split at stripped
    · obtain ⟨⟨tags, rest⟩, read, done⟩ := bind_eq_ok.mp stripped
      cases done
      exact readStack_suffix read
    · split at stripped
      · obtain ⟨⟨labels, rest⟩, read, remaining⟩ := bind_eq_ok.mp stripped
        obtain ⟨⟨guessed, behind⟩, guess, done⟩ := bind_eq_ok.mp remaining
        cases done
        exact (guessType_suffix guess).trans (readStack_suffix read)
      · cases stripped
        exact List.suffix_rfl

theorem walkExtHdrs_suffix {nxt : Option Nat} {buf : Bytes} {walk : Walk}
    (walked : walkExtHdrs nxt buf = .ok walk) : walk.payload <:+ buf := by
  fun_induction walkExtHdrs nxt buf generalizing walk with
  | case1 buf =>
      cases walked
      exact List.suffix_rfl
  | case2 buf proto isExt problem failed => cases walked
  | case3 buf proto isExt ext parsed problem failed ih => cases walked
  | case4 buf proto isExt ext parsed behind walkedBehind ih =>
      cases walked
      exact (ih walkedBehind).trans (List.drop_suffix _ _)
  | case5 buf proto notExt =>
      cases walked
      exact List.suffix_rfl

theorem ip6Payload_suffix (buf : Bytes) :
    (ip6Payload buf).length ≤ buf.length - 40 := by
  unfold ip6Payload
  split
  · rw [List.length_take, List.length_drop]
    omega
  · rw [List.length_drop]

variable {Other : Type} {others : Others Other}
  {sub sub' : Layer → Bytes → Except PyError (Carrier Other)}

/-- Two ways of answering the calls of a class agree on short buffers. -/
def AgreeBelow (bound : Nat)
    (sub sub' : Layer → Bytes → Except PyError (Carrier Other)) : Prop :=
  ∀ layer buf, buf.length < bound → sub layer buf = sub' layer buf

section Agreement

variable {bound : Nat} (agree : AgreeBelow bound sub sub')

include agree

theorem asPacket_congr (layer : Layer) {buf : Bytes}
    (short : buf.length < bound) :
    asPacket sub layer buf = asPacket sub' layer buf := by
  unfold asPacket
  rw [agree layer buf short]

theorem typeDecode_congr (type : Option Nat) {buf : Bytes}
    (short : buf.length < bound) :
    (typeUpper others sub).decode type buf =
      (typeUpper others sub').decode type buf := by
  apply Upper.decode_congr
  · rfl
  · intro number
    change (typesw others sub number).map _ = (typesw others sub' number).map _
    unfold typesw
    cases typeLayer number with
    | none => rfl
    | some layer => exact congrArg some (asPacket_congr agree layer short)

theorem protoDecode_congr (p : Option Nat) {buf : Bytes}
    (short : buf.length < bound) :
    (protoUpper others sub).decode p buf =
      (protoUpper others sub').decode p buf := by
  apply Upper.decode_congr
  · rfl
  · intro number
    change (protosw others sub number).map _ = (protosw others sub' number).map _
    unfold protosw
    cases protoLayer number with
    | none => rfl
    | some layer => exact congrArg some (asPacket_congr agree layer short)

theorem LLC.parse_congr {buf : Bytes} (short : buf.length < bound) :
    LLC.parse others sub buf = LLC.parse others sub' buf := by
  have same : LLC.unpack others sub buf = LLC.unpack others sub' buf := by
    unfold LLC.unpack takeHeader
    split
    · rfl
    · have behind : ((buf.drop 3).drop 5).length < bound := by
        rw [List.length_drop, List.length_drop]
        omega
      have data : (buf.drop 3).length < bound := by
        rw [List.length_drop]
        omega
      have sap : ∀ dsap, sapData others sub dsap (buf.drop 3) =
          sapData others sub' dsap (buf.drop 3) := by
        intro dsap
        unfold sapData
        rw [asPacket_congr agree .ip data]
      rw [ok_bind, ok_bind]
      dsimp only
      simp only [typeDecode_congr agree _ behind, sap]
  unfold LLC.parse packetInit
  rw [same]

theorem Ethernet.unpackData_congr (self : Ethernet (Packet Other))
    {buf : Bytes} (short : buf.length < bound) :
    self.unpackData others sub buf = self.unpackData others sub' buf := by
  unfold Ethernet.unpackData
  cases stripped : stripStack self.nextType buf with
  | error problem => rfl
  | ok found =>
      obtain ⟨stack, next, data⟩ := found
      have shorter := (stripStack_suffix stripped).length_le
      rw [ok_bind, ok_bind]
      dsimp only
      rw [typeDecode_congr agree _ (by omega)]

theorem Ethernet.unpackLength_congr (self : Ethernet (Packet Other))
    {data : Bytes} (short : data.length < bound) :
    self.unpackLength others sub data =
      self.unpackLength others sub' data := by
  unfold Ethernet.unpackLength
  have body : (data.take self.type).length < bound := by
    rw [List.length_take]
    omega
  rw [Ethernet.unpackData_congr agree self short, LLC.parse_congr agree body]

theorem Ethernet.unpack_congr (self : Ethernet (Packet Other)) {buf : Bytes}
    (within : buf.length ≤ bound) :
    Ethernet.unpack others sub self buf =
      Ethernet.unpack others sub' self buf := by
  fun_induction Ethernet.unpack others sub self buf with
  | case1 self buf short =>
      rw [Ethernet.unpack, dif_pos short]
  | case2 self buf enough frame isType =>
      rw [Ethernet.unpack, dif_neg enough]
      dsimp only
      rw [if_pos isType]
      apply Ethernet.unpackData_congr agree
      rw [List.length_drop]
      omega
  | case3 self buf enough frame isLength isl ih =>
      conv => rhs; rw [Ethernet.unpack]
      rw [dif_neg enough]
      dsimp only
      rw [if_neg isLength, if_pos isl]
      congr 1
      funext tag
      apply ih
      rw [List.length_drop]
      omega
  | case4 self buf enough frame isLength notIsl =>
      rw [Ethernet.unpack, dif_neg enough]
      dsimp only
      rw [if_neg isLength, if_neg notIsl]
      apply Ethernet.unpackLength_congr agree
      rw [List.length_drop]
      omega

end Agreement

theorem typesw_notRaw {type : Nat}
    {decoder : Bytes → Except PyError (Packet Other)}
    (registered : typesw others sub type = some decoder) (buf bytes : Bytes) :
    decoder buf ≠ .ok (.raw bytes) := by
  have notRaw : ∀ carrier : Carrier Other, carrier.packet ≠ .raw bytes := by
    intro carrier impossible
    cases carrier <;> cases impossible
  have other : ∀ parse : Bytes → Except PyError Other,
      asOther parse buf ≠ .ok (.raw bytes) := by
    intro parse parsed
    obtain ⟨packet, _parsed, done⟩ := bind_eq_ok.mp parsed
    cases done
  unfold typesw at registered
  split at registered
  · cases registered
    intro parsed
    obtain ⟨carrier, _parsed, done⟩ := bind_eq_ok.mp parsed
    exact notRaw carrier (Except.ok.inj done)
  · split at registered
    · cases registered
    · split at registered
      · cases registered
        exact other others.ipx
      · obtain ⟨parse, _found, same⟩ := Option.map_eq_some_iff.mp registered
        rw [← same]
        exact other parse

theorem typeDecode_raw {type : Nat} {buf bytes : Bytes}
    (decoded : (typeUpper others sub).decode (some type) buf =
      .ok (.raw bytes)) : bytes = buf := by
  unfold Upper.decode at decoded
  split at decoded
  · cases decoded
    rfl
  · rename_i decoder registered
    cases result : decoder buf with
    | ok packet =>
        rw [result] at decoded
        cases decoded
        exact absurd result (typesw_notRaw registered buf bytes)
    | error problem =>
        rw [result] at decoded
        dsimp only at decoded
        split at decoded
        · cases decoded
          rfl
        · cases decoded

theorem Ethernet.unpackData_raw {self frame : Ethernet (Packet Other)}
    {buf bytes : Bytes}
    (unpacked : self.unpackData others sub buf = .ok frame)
    (raw : frame.data = .raw bytes) : bytes.length ≤ buf.length := by
  obtain ⟨⟨stack, next, behind⟩, stripped, remaining⟩ :=
    bind_eq_ok.mp unpacked
  obtain ⟨data, decoded, done⟩ := bind_eq_ok.mp remaining
  cases done
  change data = .raw bytes at raw
  rw [raw] at decoded
  rw [typeDecode_raw decoded]
  exact (stripStack_suffix stripped).length_le

theorem Ethernet.unpackLength_raw {self frame : Ethernet (Packet Other)}
    {buf bytes : Bytes}
    (unpacked : self.unpackLength others sub buf = .ok frame)
    (raw : frame.data = .raw bytes) : bytes.length ≤ buf.length := by
  unfold Ethernet.unpackLength at unpacked
  split at unpacked
  · obtain ⟨packet, parsed, done⟩ := bind_eq_ok.mp unpacked
    obtain ⟨ipx, _parsed, same⟩ := bind_eq_ok.mp parsed
    cases same
    cases done
    cases raw
  · split at unpacked
    · exact Ethernet.unpackData_raw unpacked raw
    · obtain ⟨llc, _parsed, done⟩ := bind_eq_ok.mp unpacked
      cases done
      cases raw

/-- The second pass sees fewer bytes than the frame has. -/
theorem Ethernet.unpack_raw {self frame : Ethernet (Packet Other)}
    {buf bytes : Bytes}
    (unpacked : Ethernet.unpack others sub self buf = .ok frame)
    (raw : frame.data = .raw bytes) : bytes.length < buf.length := by
  fun_induction Ethernet.unpack others sub self buf with
  | case1 self buf short => cases unpacked
  | case2 self buf enough header isType =>
      have within := Ethernet.unpackData_raw unpacked raw
      rw [List.length_drop] at within
      omega
  | case3 self buf enough header isLength isl ih =>
      obtain ⟨tag, _parsed, inner⟩ := bind_eq_ok.mp unpacked
      have within := ih tag inner
      rw [List.length_drop] at within
      omega
  | case4 self buf enough header isLength notIsl =>
      have within := Ethernet.unpackLength_raw unpacked raw
      rw [List.length_drop] at within
      omega

theorem Ethernet.secondPass_congr {bound : Nat}
    (agree : AgreeBelow bound sub sub') (self : Ethernet (Packet Other))
    (short : ∀ bytes, self.data = .raw bytes → bytes.length < bound) :
    self.secondPass others sub = self.secondPass others sub' := by
  unfold Ethernet.secondPass
  split
  · rename_i byte rest raw
    exact Ethernet.unpackData_congr agree self (short _ raw)
  · rfl

theorem parseLayer_congr {layer : Layer} {buf : Bytes}
    (agree : AgreeBelow buf.length sub sub') :
    parseLayer others sub layer buf = parseLayer others sub' layer buf := by
  cases layer with
  | ethernet =>
      have same : Ethernet.parse others sub buf =
          Ethernet.parse others sub' buf := by
        unfold Ethernet.parse
        rw [packetInit_congr (Ethernet.unpack_congr agree _ le_rfl)]
        cases unpacked : packetInit "Ethernet" (some 14)
            (Ethernet.unpack others sub' { data := .raw [] }) buf with
        | error problem => rfl
        | ok frame =>
            apply Ethernet.secondPass_congr agree
            intro bytes raw
            exact Ethernet.unpack_raw (packetInit_eq_ok.mp unpacked) raw
      simp only [parseLayer, same]
  | ip =>
      have same : ParsedIP.parse (protoUpper others sub) buf =
          ParsedIP.parse (protoUpper others sub') buf := by
        apply packetInit_congr
        rw [ParsedIP.unpack_eq, ParsedIP.unpack_eq]
        by_cases short : buf.length < 20
        · rw [if_pos short, if_pos short]
        · by_cases cramped : ipHeaderLength buf < 20
          · rw [if_pos cramped, if_pos cramped]
          · have shorter : (ipPayload buf).length < buf.length :=
              ipPayload_length (by omega) (by omega)
            have data : (protoUpper others sub).dataOfIp (ipHdr buf)
                (ipPayload buf) =
                  (protoUpper others sub').dataOfIp (ipHdr buf)
                    (ipPayload buf) := by
              unfold Upper.dataOfIp
              rw [protoDecode_congr agree _ shorter]
              rfl
            rw [data]
      simp only [parseLayer, same]
  | ip6 =>
      have same : IP6.parse (protoUpper others sub) buf =
          IP6.parse (protoUpper others sub') buf := by
        apply packetInit_congr
        rw [IP6.unpack_eq, IP6.unpack_eq]
        by_cases short : buf.length < 40
        · rw [if_pos short, if_pos short]
        · rw [if_neg short, if_neg short]
          cases walked : walkExtHdrs (some (ip6Nxt buf)) (ip6Payload buf) with
          | error problem => rfl
          | ok walk =>
              have inPayload := (walkExtHdrs_suffix walked).length_le
              have inBuf := ip6Payload_suffix buf
              have data : ∀ fragment,
                  (protoUpper others sub).dataOf fragment walk =
                    (protoUpper others sub').dataOf fragment walk := by
                intro fragment
                unfold Upper.dataOf
                rw [protoDecode_congr agree _ (by omega)]
                rfl
              simp only [ok_bind, data]
      simp only [parseLayer, same]

/-- Parsing as the code has it, where every class calls the others freely. -/
theorem Layer.parse_eq (others : Others Other) (layer : Layer) (buf : Bytes) :
    layer.parse others buf = parseLayer others (Layer.parse others) layer buf := by
  unfold Layer.parse
  apply tie_eq
  intro first second call same
  apply parseLayer_congr
  intro inner piece shorter
  exact same (inner, piece) shorter

end DpktNg.Link
