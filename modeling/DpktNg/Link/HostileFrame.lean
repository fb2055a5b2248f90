/-
Parsing a frame raises an error that is not of the library exactly when the
frame is hostile.  Each class is unfolded once, into the buffers that it breaks
on and those that it hands on.
-/

import DpktNg.Link.Hostile

namespace DpktNg.Link

open Library Inet

/-! ### No class raises `struct.error` -/

def NotStruct (problem : PyError) : Prop := problem ≠ .structError

theorem notStruct_of_library {problem : PyError}
    (library : problem.IsUnpackError) : NotStruct problem := by
  intro struct
  rw [struct] at library
  exact library

theorem escapes_header_of_notStruct {α : Type} {result : Except PyError α}
    (notStruct : RaisesOnly NotStruct result) :
    Escapes HeaderError result ↔ Escapes PyError.IsUnpackError result := by
  constructor
  · intro escapes
    obtain ⟨problem, raised, refused⟩ := escapes
    exact ⟨problem, raised, fun library => refused (Or.inr library)⟩
  · intro escapes
    obtain ⟨problem, raised, refused⟩ := escapes
    refine ⟨problem, raised, ?_⟩
    rintro (struct | library)
    · exact notStruct problem raised struct
    · exact refused library

theorem headerError_of_library (problem : PyError)
    (library : problem.IsUnpackError) : HeaderError problem :=
  Or.inr library

theorem indexError_not_headerError : ¬HeaderError .indexError := by
  rintro (impossible | impossible)
  · cases impossible
  · exact impossible

variable {Other : Type} {others : Others Other}
  {sub : Layer → Bytes → Except PyError (Carrier Other)}

section NoStruct

variable (trusted : others.RaisesUnpackErrors)
  (never : ∀ layer buf, RaisesOnly NotStruct (sub layer buf))

include trusted never

theorem Ethernet.secondPass_notStruct (frame : Ethernet (Packet Other)) :
    RaisesOnly NotStruct (frame.secondPass others sub) := by
  have stack : ∀ nextType buf,
      RaisesOnly NotStruct (stripStack nextType buf) := by
    intro nextType buf problem raised struct
    rw [struct] at raised
    have escapes : Escapes PyError.IsUnpackError (stripStack nextType buf) :=
      ⟨_, raised, id⟩
    have only := (stripStack_escapes (fun _ => id) id).mp escapes
    have headerToo := (stripStack_escapes headerError_of_library
      indexError_not_headerError).mpr only
    obtain ⟨other, raisedOther, refused⟩ := headerToo
    rw [raised] at raisedOther
    cases raisedOther
    exact refused (Or.inl rfl)
  unfold Ethernet.secondPass
  split
  · unfold Ethernet.unpackData
    refine (stack _ _).bind fun found _stripped => ?_
    refine RaisesOnly.bind ?_ fun _ _ => raisesOnly_ok _
    refine not_escapes_iff.mp ?_
    intro escapes
    obtain ⟨layer, _known, inside⟩ := (typeDecode_escapes
      (fun _ => notStruct_of_library) trusted).mp escapes
    exact not_escapes_iff.mpr (never layer _) inside
  · exact raisesOnly_ok _

theorem parseLayer_notStruct (layer : Layer) (buf : Bytes) :
    RaisesOnly NotStruct (parseLayer others sub layer buf) := by
  cases layer with
  | ethernet =>
      refine RaisesOnly.bind ?_ fun _ _ => raisesOnly_ok _
      refine RaisesOnly.bind ?_ fun frame _ =>
        Ethernet.secondPass_notStruct trusted never frame
      intro problem raised struct
      rw [struct] at raised
      exact packetInit_ne_structError raised
  | ip =>
      refine RaisesOnly.bind ?_ fun _ _ => raisesOnly_ok _
      intro problem raised struct
      rw [struct] at raised
      exact packetInit_ne_structError raised
  | ip6 =>
      refine RaisesOnly.bind ?_ fun _ _ => raisesOnly_ok _
      intro problem raised struct
      rw [struct] at raised
      exact packetInit_ne_structError raised

end NoStruct

theorem Layer.parse_notStruct (trusted : others.RaisesUnpackErrors)
    (layer : Layer) (buf : Bytes) :
    RaisesOnly NotStruct (layer.parse others buf) := by
  unfold Layer.parse
  apply tie_induction
    (fun _call : Layer × Bytes => RaisesOnly (α := Carrier Other) NotStruct)
  · intro call
    exact raisesOnly_error.mpr (by intro impossible; cases impossible)
  · intro calls never call
    exact parseLayer_notStruct trusted (fun layer buf => never (layer, buf)) _ _

/-! ### The classes, unfolded once -/

/-- One of the buffers handed on has the property. -/
def HandsTo (Bad : Layer → Bytes → Prop) (layer : Layer) (buf : Bytes) :
    Prop :=
  ∃ inner piece, Hands layer buf inner piece ∧ Bad inner piece

section Steps

variable (trusted : others.RaisesUnpackErrors)
  (never : ∀ layer buf, RaisesOnly NotStruct (sub layer buf))

/-- The call of a class raises the wrong error. -/
def Aborts (sub : Layer → Bytes → Except PyError (Carrier Other))
    (layer : Layer) (buf : Bytes) : Prop :=
  Escapes PyError.IsUnpackError (sub layer buf)

include never in
theorem escapes_header_iff {layer : Layer} {buf : Bytes} :
    Escapes HeaderError (sub layer buf) ↔ Aborts sub layer buf :=
  escapes_header_of_notStruct (never layer buf)

include trusted never

theorem ip_aborts (buf : Bytes) :
    Escapes PyError.IsUnpackError
        (ParsedIP.parse (protoUpper others sub) buf) ↔
      HandsTo (Aborts sub) .ip buf := by
  refine packetInit_escapes.trans ?_
  rw [ParsedIP.unpack_eq]
  constructor
  · intro escapes
    split at escapes
    · exact absurd escapes (not_escapes_error (Or.inl rfl))
    · rename_i whole
      split at escapes
      · exact absurd escapes (not_escapes_error (Or.inr trivial))
      · rename_i header
        rcases escapes_bind.mp escapes with escapes | ⟨_, _, impossible⟩
        · unfold Upper.dataOfIp at escapes
          split at escapes
          · rename_i first
            obtain ⟨layer, known, inside⟩ := (protoDecode_escapes
              headerError_of_library trusted).mp escapes
            exact ⟨layer, _, Hands.ip (by omega) (by omega) first known,
              (escapes_header_iff never).mp inside⟩
          · exact absurd escapes (not_escapes_ok _)
        · exact absurd impossible (not_escapes_ok _)
  · rintro ⟨layer, piece, hands, inside⟩
    cases hands with
    | ip whole header first known =>
        rw [if_neg (by omega), if_neg (by omega)]
        refine escapes_bind.mpr (Or.inl ?_)
        unfold Upper.dataOfIp
        rw [if_pos first]
        exact (protoDecode_escapes headerError_of_library trusted).mpr
          ⟨layer, known, (escapes_header_iff never).mpr inside⟩

theorem ip6_aborts (buf : Bytes) :
    Escapes PyError.IsUnpackError
        (IP6.parse (protoUpper others sub) buf) ↔
      Breaks .ip6 buf ∨ HandsTo (Aborts sub) .ip6 buf := by
  constructor
  · intro escapes
    by_cases missing : FragOffMissing buf
    · exact Or.inl (Breaks.fragOff missing)
    · refine Or.inr ?_
      have escapes : Escapes HeaderError
          (IP6.unpack (protoUpper others sub) buf) :=
        packetInit_escapes.mp escapes
      rw [IP6.unpack_eq] at escapes
      split at escapes
      · exact absurd escapes (not_escapes_error (Or.inl rfl))
      · rename_i whole
        rcases escapes_bind.mp escapes with walking | ⟨walk, walked, escapes⟩
        · refine absurd walking (not_escapes_iff.mpr ?_)
          exact (walkExtHdrs_raisesOnly _ _).mono headerError_of_library
        · obtain ⟨fragment, known⟩ := laterFragment_ok (ip6Nxt buf)
            fun starts none => missing ⟨by omega, starts, walk, walked, none⟩
          rw [known, ok_bind] at escapes
          rcases escapes_bind.mp escapes with escapes | ⟨_, _, impossible⟩
          · cases fragment with
            | true => exact absurd escapes (not_escapes_ok _)
            | false =>
                obtain ⟨layer, found, inside⟩ := (protoDecode_escapes
                  headerError_of_library trusted).mp escapes
                exact ⟨layer, _, Hands.ip6 (by omega) walked known found,
                  (escapes_header_iff never).mp inside⟩
          · exact absurd impossible (not_escapes_ok _)
  · rintro (breaks | ⟨layer, piece, hands, inside⟩)
    · cases breaks with
      | fragOff missing =>
          exact ⟨_, IP6.parse_of_fragOffMissing _ missing, id⟩
    · cases hands with
      | ip6 whole walked first known =>
          refine packetInit_escapes.mpr ?_
          rw [IP6.unpack_eq, if_neg (by omega), walked, ok_bind, first, ok_bind]
          refine escapes_bind.mpr (Or.inl ?_)
          exact (protoDecode_escapes headerError_of_library trusted).mpr
            ⟨layer, known, (escapes_header_iff never).mpr inside⟩

/-! ### Frames -/

omit never in
theorem Ethernet.unpackData_escapes {Allowed : PyError → Prop}
    (library : ∀ problem, problem.IsUnpackError → Allowed problem)
    (refused : ¬Allowed .indexError) {self : Ethernet (Packet Other)}
    {buf : Bytes} :
    Escapes Allowed (self.unpackData others sub buf) ↔
      (∃ type ∈ ethTypesMpls, self.nextType = some type ∧
          OnlyLabels 24 buf) ∨
        ∃ stack next data,
          stripStack self.nextType buf = .ok (stack, next, data) ∧
            ∃ layer, typeLayer (ethType next self.type) = some layer ∧
              Escapes Allowed (sub layer data) := by
  unfold Ethernet.unpackData
  rw [escapes_bind, stripStack_escapes library refused]
  refine or_congr_right ?_
  constructor
  · rintro ⟨⟨stack, next, data⟩, stripped, escapes⟩
    refine ⟨stack, next, data, stripped, ?_⟩
    rcases escapes_bind.mp escapes with escapes | ⟨_, _, impossible⟩
    · exact (typeDecode_escapes library trusted).mp escapes
    · exact absurd impossible (not_escapes_ok _)
  · rintro ⟨stack, next, data, stripped, inside⟩
    refine ⟨_, stripped, escapes_bind.mpr (Or.inl ?_)⟩
    exact (typeDecode_escapes library trusted).mpr inside

omit trusted never

theorem typesw_stack {type : Nat} (isStack : IsStackType type) :
    typesw others sub type = none := by
  have notLayer : typeLayer type = none := by
    have table : ∀ other ∈ ethTypesQinQ ++ ethTypesMpls,
        typeLayer other = none := by decide
    exact table type (List.mem_append.mpr isStack)
  unfold typesw
  rw [notLayer]
  exact if_pos isStack

theorem stackType_pos {type : Nat} (isStack : IsStackType type) :
    type ≠ 0 := by
  have table : ∀ other ∈ ethTypesQinQ ++ ethTypesMpls, other ≠ 0 := by decide
  exact table type (List.mem_append.mpr isStack)

theorem typeDecode_stack {type : Nat} (isStack : IsStackType type)
    (ownType : Nat) (buf : Bytes) :
    (typeUpper others sub).decode (some (ethType (some type) ownType)) buf =
      .ok (.raw buf) := by
  have known : ethType (some type) ownType = type :=
    if_neg (stackType_pos isStack)
  have missing : (some type).bind (typeUpper others sub).protosw = none :=
    typesw_stack isStack
  rw [known]
  unfold Upper.decode
  rw [missing]
  rfl

theorem stripStack_other {nextType : Option Nat}
    (notStack : ∀ type, nextType = some type → ¬IsStackType type)
    (buf : Bytes) : stripStack nextType buf = .ok (.none, nextType, buf) := by
  cases nextType with
  | none => rfl
  | some type =>
      have fine := notStack type rfl
      unfold stripStack
      dsimp only
      rw [if_neg fun member => fine (Or.inl member),
        if_neg fun member => fine (Or.inr member)]

theorem Ethernet.withStack_type {Data : Type} (self : Ethernet Data)
    (stack : Stack) (next : Option Nat) :
    (self.withStack stack next).type = self.type ∧
      (self.withStack stack next).nextType = next := by
  cases stack <;> exact ⟨rfl, rfl⟩

/-- The second pass does something new only where the first one has left a tag
or label type, otherwise it repeats a dispatch that went well. -/
theorem Ethernet.secondPass_escapes {Allowed : PyError → Prop}
    {self frame : Ethernet (Packet Other)} {buf data : Bytes} {stack : Stack}
    {next : Option Nat}
    (stripped : stripStack self.nextType buf = .ok (stack, next, data))
    (unpacked : self.unpackData others sub buf = .ok frame) :
    Escapes Allowed (frame.secondPass others sub) ↔
      (∃ type, next = some type ∧ IsStackType type) ∧ data ≠ [] ∧
        Escapes Allowed (frame.unpackData others sub data) := by
  unfold Ethernet.unpackData at unpacked
  rw [stripped, ok_bind] at unpacked
  obtain ⟨packet, decoded, done⟩ := bind_eq_ok.mp unpacked
  rw [Except.ok.injEq] at done
  have type : frame.type = self.type := by
    rw [← done]
    exact (self.withStack_type stack next).1
  have nextType : frame.nextType = next := by
    rw [← done]
    exact (self.withStack_type stack next).2
  have packet_eq : frame.data = packet := by
    rw [← done]
  by_cases again : ∃ type, next = some type ∧ IsStackType type
  · obtain ⟨stackType, same, isStack⟩ := again
    rw [same, typeDecode_stack isStack, Except.ok.injEq] at decoded
    unfold Ethernet.secondPass
    rw [packet_eq, ← decoded]
    cases data with
    | nil =>
        constructor
        · intro impossible
          exact absurd impossible (not_escapes_ok _)
        · rintro ⟨_, notEmpty, _⟩
          exact absurd rfl notEmpty
    | cons byte rest =>
        constructor
        · intro escapes
          exact ⟨⟨stackType, same, isStack⟩, List.cons_ne_nil _ _, escapes⟩
        · rintro ⟨_, _, escapes⟩
          exact escapes
  · constructor
    · intro escapes
      unfold Ethernet.secondPass at escapes
      split at escapes
      · rename_i byte rest raw
        rw [packet_eq] at raw
        rw [raw] at decoded
        have whole := typeDecode_raw decoded
        have strip := stripStack_other
          (fun other same isStack => again ⟨other, same, isStack⟩)
          (byte :: rest)
        rw [← whole] at decoded
        unfold Ethernet.unpackData at escapes
        rw [nextType, strip, ok_bind] at escapes
        dsimp only at escapes
        rw [type, decoded] at escapes
        exact absurd escapes (not_escapes_ok _)
      · exact absurd escapes (not_escapes_ok _)
    · rintro ⟨stackNext, _, _⟩
      exact absurd stackNext again

/-- Data behind which a first pass has seen the type of a tag or label is left
as it is for the second one. -/
theorem Ethernet.unpackData_left {self : Ethernet (Packet Other)}
    {buf data : Bytes} {stack : Stack} {next : Nat}
    (stripped : stripStack self.nextType buf = .ok (stack, some next, data))
    (isStack : IsStackType next) (left : data ≠ []) :
    ∃ frame : Ethernet (Packet Other), frame.nextType = some next ∧
      frame.type = self.type ∧
      self.unpackData others sub buf = .ok frame ∧
      frame.secondPass others sub = frame.unpackData others sub data := by
  have kept := self.withStack_type stack (some next)
  refine ⟨{ self.withStack stack (some next) with data := .raw data },
    kept.2, kept.1, ?_, ?_⟩
  · unfold Ethernet.unpackData
    rw [stripped, ok_bind]
    dsimp only
    rw [typeDecode_stack isStack, ok_bind]
  · cases data with
    | nil => exact absurd rfl left
    | cons byte rest => rfl

/-- Building a frame raises the wrong error, in `unpack` or in the second
pass. -/
def FrameAborts (others : Others Other)
    (sub : Layer → Bytes → Except PyError (Carrier Other))
    (result : Except PyError (Ethernet (Packet Other))) : Prop :=
  Escapes HeaderError result ∨
    ∃ frame, result = .ok frame ∧
      Escapes PyError.IsUnpackError (frame.secondPass others sub)

/-- What has to be shown of each kind of frame. -/
def FrameBad (sub : Layer → Bytes → Except PyError (Carrier Other))
    (frame : Bytes) : Prop :=
  LabelsEnd frame ∨ ∃ layer inner, FrameHands frame layer inner ∧
    Aborts sub layer inner

include trusted never

theorem typed_aborts {buf : Bytes} (hasType : HasType buf)
    {self : Ethernet (Packet Other)} (ownType : self.type = frameType buf)
    (nextType : self.nextType = some (frameType buf)) :
    FrameAborts others sub (self.unpackData others sub (buf.drop 14)) ↔
      FrameBad sub buf := by
  unfold FrameAborts FrameBad LabelsEnd
  rw [Ethernet.unpackData_escapes trusted headerError_of_library
    indexError_not_headerError]
  constructor
  · rintro ((⟨type, isMpls, same, only⟩ |
      ⟨stack, next, data, stripped, layer, known, inside⟩) |
        ⟨frame, unpacked, escapes⟩)
    · rw [nextType, Option.some.injEq] at same
      rw [← same] at isMpls
      exact Or.inl ⟨hasType, _, isMpls, _, Pass.first, only⟩
    · rw [nextType] at stripped
      rw [ownType] at known
      exact Or.inr ⟨layer, data,
        FrameHands.typed hasType Pass.first stripped known,
        (escapes_header_iff never).mp inside⟩
    · obtain ⟨⟨stack, next, data⟩, stripped, remaining⟩ :=
        bind_eq_ok.mp unpacked
      obtain ⟨⟨type, same, isStack⟩, left, escapes⟩ :=
        (Ethernet.secondPass_escapes stripped unpacked).mp escapes
      obtain ⟨packet, _decoded, done⟩ := bind_eq_ok.mp remaining
      cases done
      rw [nextType, same] at stripped
      have pass : Pass buf type data := Pass.second stripped isStack left
      have frameNext := (self.withStack_type stack next).2
      have frameOwn := (self.withStack_type stack next).1
      rcases (Ethernet.unpackData_escapes trusted (fun _ => id) id).mp escapes
        with ⟨mpls, isMpls, sameMpls, only⟩ |
          ⟨stack', next', inner, stripped', layer, known, inside⟩
      · change (self.withStack stack next).nextType = some mpls at sameMpls
        rw [frameNext, same, Option.some.injEq] at sameMpls
        rw [← sameMpls] at isMpls
        exact Or.inl ⟨hasType, type, isMpls, data, pass, only⟩
      · change stripStack (self.withStack stack next).nextType data = _
          at stripped'
        rw [frameNext, same] at stripped'
        change typeLayer (ethType next' (self.withStack stack next).type) = _
          at known
        rw [frameOwn, ownType] at known
        exact Or.inr ⟨layer, inner,
          FrameHands.typed hasType pass stripped' known, inside⟩
  · rintro (⟨_, type, isMpls, data, pass, only⟩ |
      ⟨layer, inner, hands, inside⟩)
    · cases pass with
      | first => exact Or.inl (Or.inl ⟨_, isMpls, nextType, only⟩)
      | second stripped isStack left =>
          rw [← nextType] at stripped
          obtain ⟨frame, frameNext, _frameOwn, unpacked, again⟩ :=
            Ethernet.unpackData_left stripped isStack left
          refine Or.inr ⟨frame, unpacked, ?_⟩
          rw [again]
          exact (Ethernet.unpackData_escapes trusted (fun _ => id) id).mpr
            (Or.inl ⟨type, isMpls, frameNext, only⟩)
    · cases hands with
      | @typed data _ type stack next _ _ pass stripped known =>
          cases pass with
          | first =>
              rw [← nextType] at stripped
              rw [← ownType] at known
              exact Or.inl (Or.inr ⟨stack, next, inner, stripped, layer, known,
                (escapes_header_iff never).mpr inside⟩)
          | second strippedFirst isStack left =>
              rw [← nextType] at strippedFirst
              obtain ⟨frame, frameNext, frameOwn, unpacked, again⟩ :=
                Ethernet.unpackData_left strippedFirst isStack left
              refine Or.inr ⟨frame, unpacked, ?_⟩
              rw [again]
              rw [← frameNext] at stripped
              rw [← ownType, ← frameOwn] at known
              exact (Ethernet.unpackData_escapes trusted (fun _ => id) id).mpr
                (Or.inr ⟨stack, next, inner, stripped, layer, known, inside⟩)
      | snap isLlc whole isSnap known =>
          have isLength := isLlc.isLength
          have isType := hasType.2
          omega
      | sapIp isLlc whole isIp =>
          have isLength := isLlc.isLength
          have isType := hasType.2
          omega

/-! ### Frames with a length -/

omit trusted never in
theorem LLC.unpack_eq (buf : Bytes) :
    LLC.unpack others sub buf =
      if buf.length < 3 then .error .structError
      else if buf.take 2 = [0xaa, 0xaa] then
        if buf.length < 8 then .error .structError
        else (do
          let data ← (typeUpper others sub).decode
            (some (beNat (cut buf 6 8))) (buf.drop 8)
          .ok { dsap := 0xaa, ssap := 0xaa, ctl := beNat (cut buf 2 3)
                oui := some (beNat (cut buf 3 6))
                type := some (beNat (cut buf 6 8)), data })
      else (do
        let data ← sapData others sub (beNat (cut buf 0 1)) (buf.drop 3)
        .ok { dsap := beNat (cut buf 0 1), ssap := beNat (cut buf 1 2)
              ctl := beNat (cut buf 2 3), data }) := by
  have spelled : LLC.unpack others sub buf = _ :=
    @header_bind _ [1, 1, 1] buf _
  rw [spelled]
  match buf with
  | [] => rfl
  | [_] => rfl
  | [_, _] => rfl
  | dsap :: ssap :: ctl :: rest =>
      have values : fieldValues [1, 1, 1]
          ((dsap :: ssap :: ctl :: rest).take [1, 1, 1].sum) =
            [dsap.toNat, ssap.toNat, ctl.toNat] := by
        simp [fieldValues, beNat]
      have isSnap : (dsap.toNat = ssap.toNat ∧ ssap.toNat = 0xaa) ↔
          (dsap :: ssap :: ctl :: rest).take 2 = [0xaa, 0xaa] := by
        have inRange : ∀ byte : UInt8, byte.toNat = 0xaa ↔ byte = 0xaa :=
          fun byte => UInt8.toNat_inj (b := 0xaa)
        simp only [List.take_succ_cons, List.take_zero, List.cons.injEq,
          and_true]
        rw [← inRange, ← inRange]
        omega
      have behind : (dsap :: ssap :: ctl :: rest).drop [1, 1, 1].sum = rest :=
        rfl
      have ctlField : beNat (cut (dsap :: ssap :: ctl :: rest) 2 3) =
          ctl.toNat := beNat_singleton ctl
      rw [if_neg (by simp), if_neg (by simp), values]
      dsimp only
      rw [behind]
      by_cases snap : (dsap :: ssap :: ctl :: rest).take 2 = [0xaa, 0xaa]
      · obtain ⟨sameSap, sap⟩ := isSnap.mpr snap
        rw [if_pos ⟨sameSap, sap⟩, if_pos snap]
        by_cases short : rest.length < 5
        · have cramped : unpackFields [4, 2] (0 :: rest.take 5) =
              .error .structError := by
            unfold unpackFields
            rw [if_neg]
            simp only [List.length_cons, List.length_take, List.sum_cons,
              List.sum_nil]
            omega
          rw [cramped, if_pos (by simp only [List.length_cons]; omega)]
          rfl
        · have enough : unpackFields [4, 2] (0 :: rest.take 5) =
              .ok [beNat (rest.take 3), beNat ((rest.drop 3).take 2)] := by
            unfold unpackFields
            rw [if_pos]
            · simp [fieldValues, beNat, List.take_take, List.drop_take]
            · simp only [List.length_cons, List.length_take, List.sum_cons,
                List.sum_nil]
              omega
          rw [sameSap, sap, if_neg (by simp only [List.length_cons]; omega),
            enough, ok_bind, ctlField]
          rfl
      · have dsapField : beNat (cut (dsap :: ssap :: ctl :: rest) 0 1) =
            dsap.toNat := beNat_singleton dsap
        have ssapField : beNat (cut (dsap :: ssap :: ctl :: rest) 1 2) =
            ssap.toNat := beNat_singleton ssap
        rw [if_neg fun same => snap (isSnap.mp same), if_neg snap, dsapField,
          ssapField, ctlField]
        rfl

omit never in
theorem sapData_escapes {Allowed : PyError → Prop}
    (library : ∀ problem, problem.IsUnpackError → Allowed problem)
    {dsap : Nat} {buf : Bytes} :
    Escapes Allowed (sapData others sub dsap buf) ↔
      dsap = 0x06 ∧ Escapes Allowed (sub .ip buf) := by
  unfold sapData
  by_cases isIp : dsap = 0x06
  · rw [if_pos isIp, asPacket_escapes]
    constructor
    · intro escapes
      exact ⟨isIp, escapes⟩
    · intro escapes
      exact escapes.2
  · rw [if_neg isIp]
    constructor
    · intro escapes
      refine absurd escapes (not_escapes_iff.mpr ?_)
      split
      · exact asOther_raisesOnly library (trusted.ipx buf)
      · split
        · exact asOther_raisesOnly library (trusted.stp buf)
        · split
          · exact asOther_raisesOnly library (trusted.isis buf)
          · exact raisesOnly_ok _
    · intro impossible
      exact absurd impossible.1 isIp

omit trusted never in
theorem firstByte_iff {buf : Bytes} (enough : 0 < buf.length)
    (byte : UInt8) :
    beNat (cut buf 0 1) = byte.toNat ↔ buf.take 1 = [byte] := by
  cases buf with
  | nil => cases enough
  | cons first rest =>
      have value : beNat (cut (first :: rest) 0 1) = first.toNat := by
        simp [cut, beNat]
      rw [value, UInt8.toNat_inj]
      simp

theorem llc_escapes (buf : Bytes) :
    Escapes PyError.IsUnpackError (LLC.parse others sub buf) ↔
      (8 ≤ buf.length ∧ buf.take 2 = [0xaa, 0xaa] ∧
        ∃ layer, typeLayer (beNat (cut buf 6 8)) = some layer ∧
          Aborts sub layer (buf.drop 8)) ∨
      (3 ≤ buf.length ∧ buf.take 1 = [0x06] ∧
        Aborts sub .ip (buf.drop 3)) := by
  refine packetInit_escapes.trans ?_
  rw [LLC.unpack_eq]
  by_cases short : buf.length < 3
  · rw [if_pos short]
    constructor
    · intro escapes
      exact absurd escapes (not_escapes_error (Or.inl rfl))
    · rintro (⟨whole, _⟩ | ⟨whole, _⟩) <;> omega
  · have isIp : beNat (cut buf 0 1) = 0x06 ↔ buf.take 1 = [0x06] :=
      firstByte_iff (by omega) 0x06
    rw [if_neg short]
    by_cases snap : buf.take 2 = [0xaa, 0xaa]
    · have notIp : buf.take 1 ≠ [0x06] := by
        intro same
        have first := congrArg (List.take 1) snap
        rw [List.take_take] at first
        change buf.take 1 = [0xaa] at first
        rw [same] at first
        cases first
      rw [if_pos snap]
      by_cases cramped : buf.length < 8
      · rw [if_pos cramped]
        constructor
        · intro escapes
          exact absurd escapes (not_escapes_error (Or.inl rfl))
        · rintro (⟨whole, _⟩ | ⟨_, same, _⟩)
          · omega
          · exact absurd same notIp
      · rw [if_neg cramped, escapes_bind,
          typeDecode_escapes headerError_of_library trusted]
        constructor
        · rintro (⟨layer, known, inside⟩ | ⟨_, _, impossible⟩)
          · exact Or.inl ⟨by omega, snap, layer, known,
              (escapes_header_iff never).mp inside⟩
          · exact absurd impossible (not_escapes_ok _)
        · rintro (⟨_, _, layer, known, inside⟩ | ⟨_, same, _⟩)
          · exact Or.inl ⟨layer, known, (escapes_header_iff never).mpr inside⟩
          · exact absurd same notIp
    · rw [if_neg snap, escapes_bind,
        sapData_escapes trusted headerError_of_library, isIp,
        escapes_header_iff never]
      constructor
      · rintro (⟨same, inside⟩ | ⟨_, _, impossible⟩)
        · exact Or.inr ⟨by omega, same, inside⟩
        · exact absurd impossible (not_escapes_ok _)
      · rintro (⟨_, same, _⟩ | ⟨_, same, inside⟩)
        · exact absurd same snap
        · exact Or.inl ⟨same, inside⟩

/-- A frame with a length field has one pass; only its LLC body dispatches. -/
theorem length_aborts {buf : Bytes} (whole : 14 ≤ buf.length)
    (isLength : frameType buf ≤ 1500)
    (notIsl : isIslAddress (cut buf 0 6) = false)
    {self : Ethernet (Packet Other)} (ownType : self.type = frameType buf)
    (nextType : self.nextType = none) :
    FrameAborts others sub (self.unpackLength others sub (buf.drop 14)) ↔
      FrameBad sub buf := by
  unfold FrameAborts FrameBad
  have notTyped : ¬LabelsEnd buf := by
    rintro ⟨hasType, _⟩
    have isType := hasType.2
    omega
  have noHands : ¬IsLlcFrame buf → ¬∃ layer inner,
      FrameHands buf layer inner ∧ Aborts sub layer inner := by
    rintro notLlc ⟨layer, inner, hands, _⟩
    cases hands with
    | typed hasType _ _ _ =>
        have isType := hasType.2
        omega
    | snap isLlc _ _ _ => exact notLlc isLlc
    | sapIp isLlc _ _ => exact notLlc isLlc
  unfold Ethernet.unpackLength
  by_cases ipx : (buf.drop 14).take 2 = [0xff, 0xff]
  · rw [if_pos ipx]
    constructor
    · rintro (escapes | ⟨frame, unpacked, escapes⟩)
      · refine absurd escapes (not_escapes_iff.mpr ?_)
        exact (asOther_raisesOnly headerError_of_library
          (trusted.ipx _)).bind fun _ _ => raisesOnly_ok _
      · obtain ⟨packet, parsed, done⟩ := bind_eq_ok.mp unpacked
        obtain ⟨other, _parsed, same⟩ := bind_eq_ok.mp parsed
        cases same
        cases done
        exact absurd escapes (not_escapes_ok _)
    · rintro (labels | hands)
      · exact absurd labels notTyped
      · exact absurd hands (noHands fun isLlc => isLlc.notIpx ipx)
  · rw [if_neg ipx, ownType]
    by_cases unknown : frameType buf = 0
    · rw [if_pos unknown]
      constructor
      · rintro (escapes | ⟨frame, unpacked, escapes⟩)
        · rw [Ethernet.unpackData_escapes trusted headerError_of_library
            indexError_not_headerError, nextType] at escapes
          rcases escapes with ⟨_, _, impossible, _⟩ |
            ⟨_, _, _, stripped, layer, known, _⟩
          · cases impossible
          · cases stripped
            change typeLayer self.type = some layer at known
            rw [ownType, unknown] at known
            cases known
        · have stripped : stripStack self.nextType (buf.drop 14) =
              .ok (.none, none, buf.drop 14) := by
            rw [nextType]
            rfl
          obtain ⟨⟨_, impossible, _⟩, _⟩ :=
            (Ethernet.secondPass_escapes stripped unpacked).mp escapes
          cases impossible
      · rintro (labels | hands)
        · exact absurd labels notTyped
        · exact absurd hands (noHands fun isLlc => isLlc.known unknown)
    · have isLlc : IsLlcFrame buf := ⟨whole, isLength, notIsl, ipx, unknown⟩
      have header : Escapes HeaderError (LLC.parse others sub (llcBody buf)) ↔
          Escapes PyError.IsUnpackError
            (LLC.parse others sub (llcBody buf)) := by
        apply escapes_header_of_notStruct
        intro problem raised struct
        rw [struct] at raised
        exact packetInit_ne_structError raised
      rw [if_neg unknown]
      change Escapes HeaderError (LLC.parse others sub (llcBody buf) >>= _) ∨
        (∃ frame, (LLC.parse others sub (llcBody buf) >>= _) = .ok frame ∧ _) ↔
          _
      rw [escapes_bind, header, llc_escapes trusted never]
      constructor
      · rintro (((⟨enough, snap, layer, known, inside⟩ |
          ⟨enough, isIp, inside⟩) | ⟨_, _, impossible⟩) |
            ⟨frame, unpacked, escapes⟩)
        · exact Or.inr ⟨layer, _, FrameHands.snap isLlc enough snap known,
            inside⟩
        · exact Or.inr ⟨.ip, _, FrameHands.sapIp isLlc enough isIp, inside⟩
        · exact absurd impossible (not_escapes_ok _)
        · obtain ⟨llc, _parsed, done⟩ := bind_eq_ok.mp unpacked
          cases done
          exact absurd escapes (not_escapes_ok _)
      · rintro (labels | ⟨layer, inner, hands, inside⟩)
        · exact absurd labels notTyped
        · cases hands with
          | typed hasType _ _ _ =>
              have isType := hasType.2
              omega
          | snap _ enough snap known =>
              exact Or.inl (Or.inl (Or.inl
                ⟨enough, snap, layer, known, inside⟩))
          | sapIp _ enough isIp =>
              exact Or.inl (Or.inl (Or.inr ⟨enough, isIp, inside⟩))

/-! ### All classes -/

theorem Ethernet.unpack_aborts {buf : Bytes} {self : Ethernet (Packet Other)}
    (nextType : self.nextType = none) :
    FrameAborts others sub (Ethernet.unpack others sub self buf) ↔
      FrameBad sub (skipIsl buf) := by
  have notBad : ∀ frame, ¬HasType frame → ¬IsLlcFrame frame →
      ¬FrameBad sub frame := by
    rintro frame notTyped notLlc (labels | ⟨layer, inner, hands, _⟩)
    · exact notTyped labels.1
    · cases hands with
      | typed hasType _ _ _ => exact notTyped hasType
      | snap isLlc _ _ _ => exact notLlc isLlc
      | sapIp isLlc _ _ => exact notLlc isLlc
  have plain : ∀ buf, ¬IsIslFrame buf → skipIsl buf = buf := by
    intro buf notIsl
    rw [skipIsl, dif_neg notIsl]
  fun_induction Ethernet.unpack others sub self buf with
  | case1 self buf short =>
      rw [plain buf fun isl => by have := isl.1; omega]
      constructor
      · rintro (escapes | ⟨_, impossible, _⟩)
        · exact absurd escapes (not_escapes_error (Or.inl rfl))
        · cases impossible
      · intro bad
        refine absurd bad (notBad buf ?_ ?_)
        · intro hasType
          have whole := hasType.1
          omega
        · intro isLlc
          have whole := isLlc.whole
          omega
  | case2 self buf enough frame isType =>
      have isType : frameType buf > 1500 := isType
      rw [plain buf fun isl => by have := isl.2.1; omega]
      exact typed_aborts trusted never ⟨by omega, isType⟩ rfl rfl
  | case3 self buf enough frame isLength isl ih =>
      have isLength : frameType buf ≤ 1500 := Nat.not_lt.mp isLength
      by_cases short : buf.length < 26
      · rw [VLANtagISL.parse_short short,
          plain buf fun isl => by have := isl.1; omega]
        constructor
        · rintro (escapes | ⟨_, impossible, _⟩)
          · exact absurd escapes (not_escapes_error (Or.inr trivial))
          · cases impossible
        · intro bad
          refine absurd bad (notBad buf ?_ ?_)
          · intro hasType
            have isType := hasType.2
            omega
          · intro isLlc
            have notIsl := isLlc.notIsl
            rw [show isIslAddress (cut buf 0 6) = true from isl] at notIsl
            cases notIsl
      · obtain ⟨tag, parsed⟩ := @VLANtagISL.parse_whole buf (by omega)
        rw [parsed, ok_bind, skipIsl,
          dif_pos ⟨by omega, isLength, isl⟩]
        exact ih tag nextType
  | case4 self buf enough frame isLength notIsl =>
      have isLength : frameType buf ≤ 1500 := Nat.not_lt.mp isLength
      have notIsl : isIslAddress (cut buf 0 6) = false :=
        Bool.eq_false_iff.mpr notIsl
      have notIslFrame : ¬IsIslFrame buf := by
        intro isl
        have address := isl.2.2
        rw [notIsl] at address
        cases address
      rw [plain buf notIslFrame]
      exact length_aborts trusted never (by omega) isLength notIsl rfl nextType

theorem ethernet_aborts (buf : Bytes) :
    Escapes PyError.IsUnpackError (Ethernet.parse others sub buf) ↔
      Breaks .ethernet buf ∨ HandsTo (Aborts sub) .ethernet buf := by
  have parts : FrameBad sub (skipIsl buf) ↔
      Breaks .ethernet buf ∨ HandsTo (Aborts sub) .ethernet buf := by
    constructor
    · rintro (labels | ⟨layer, inner, hands, inside⟩)
      · exact Or.inl (Breaks.labels labels)
      · exact Or.inr ⟨layer, inner, Hands.frame hands, inside⟩
    · rintro (breaks | ⟨layer, inner, hands, inside⟩)
      · cases breaks with
        | labels ends => exact Or.inl ends
      · cases hands with
        | frame hands => exact Or.inr ⟨layer, inner, hands, inside⟩
  have unpacked : FrameAborts others sub
      (Ethernet.unpack others sub { data := .raw [] } buf) ↔
        FrameBad sub (skipIsl buf) :=
    Ethernet.unpack_aborts trusted never rfl
  rw [← parts, ← unpacked]
  unfold Ethernet.parse FrameAborts
  rw [escapes_bind]
  refine or_congr packetInit_escapes ?_
  simp only [packetInit_eq_ok]

theorem parseLayer_aborts (layer : Layer) (buf : Bytes) :
    Escapes PyError.IsUnpackError (parseLayer others sub layer buf) ↔
      Breaks layer buf ∨ HandsTo (Aborts sub) layer buf := by
  have wrapped : ∀ {Value : Type} (result : Except PyError Value)
      (wrap : Value → Carrier Other),
      Escapes PyError.IsUnpackError (result >>= fun value =>
        .ok (wrap value)) ↔ Escapes PyError.IsUnpackError result := by
    intro Value result wrap
    rw [escapes_bind]
    constructor
    · rintro (escapes | ⟨_, _, impossible⟩)
      · exact escapes
      · exact absurd impossible (not_escapes_ok _)
    · exact Or.inl
  cases layer with
  | ethernet => exact (wrapped _ _).trans (ethernet_aborts trusted never buf)
  | ip =>
      refine (wrapped _ _).trans ((ip_aborts trusted never buf).trans ?_)
      constructor
      · exact Or.inr
      · rintro (impossible | hands)
        · cases impossible
        · exact hands
  | ip6 => exact (wrapped _ _).trans (ip6_aborts trusted never buf)

end Steps

/-! ### Whole frames -/

theorem skipIsl_suffix (buf : Bytes) : skipIsl buf <:+ buf := by
  fun_induction skipIsl buf with
  | case1 buf isl ih => exact ih.trans (List.drop_suffix 26 buf)
  | case2 buf notIsl => exact List.suffix_rfl

/-- What a class hands on is shorter than what it was given. -/
theorem Hands.shorter {layer inner : Layer} {buf piece : Bytes}
    (hands : Hands layer buf inner piece) : piece.length < buf.length := by
  cases hands with
  | frame hands =>
      have whole := (skipIsl_suffix buf).length_le
      cases hands with
      | typed hasType pass stripped known =>
          have inFrame := hasType.1
          have inData := (stripStack_suffix stripped).length_le
          cases pass with
          | first =>
              rw [List.length_drop] at inData
              omega
          | second strippedFirst _ _ =>
              have inFirst := (stripStack_suffix strippedFirst).length_le
              rw [List.length_drop] at inFirst
              omega
      | snap isLlc _ _ _ =>
          have inFrame := isLlc.whole
          unfold llcBody
          rw [List.length_drop, List.length_take, List.length_drop]
          omega
      | sapIp isLlc _ _ =>
          have inFrame := isLlc.whole
          unfold llcBody
          rw [List.length_drop, List.length_take, List.length_drop]
          omega
  | ip whole header _ _ => exact ipPayload_length whole header
  | ip6 whole walked _ _ =>
      have inPayload := (walkExtHdrs_suffix walked).length_le
      have inBuf := ip6Payload_suffix buf
      omega

/-- Parsing raises an error that is not of the library exactly on hostile
buffers. -/
theorem Layer.parse_aborts (trusted : others.RaisesUnpackErrors)
    (layer : Layer) (buf : Bytes) :
    Escapes PyError.IsUnpackError (layer.parse others buf) ↔
      Hostile layer buf := by
  induction size : buf.length using Nat.strongRecOn generalizing layer buf with
  | ind bound ih =>
      rw [Layer.parse_eq,
        parseLayer_aborts trusted (Layer.parse_notStruct trusted)]
      constructor
      · rintro (breaks | ⟨inner, piece, hands, inside⟩)
        · exact Hostile.here breaks
        · have shorter := hands.shorter
          exact Hostile.inside hands
            ((ih _ (by omega) inner piece rfl).mp inside)
      · intro hostile
        cases hostile with
        | here breaks => exact Or.inl breaks
        | inside hands hostile =>
            have shorter := hands.shorter
            exact Or.inr ⟨_, _, hands, (ih _ (by omega) _ _ rfl).mpr hostile⟩

theorem parseFrame_aborts (trusted : others.RaisesUnpackErrors)
    (buf : Bytes) :
    Escapes PyError.IsUnpackError (parseFrame others buf) ↔
      Hostile .ethernet buf := by
  rw [← Layer.parse_aborts trusted, Layer.parse_eq,
    parseLayer_aborts trusted (Layer.parse_notStruct trusted)]
  exact ethernet_aborts trusted (Layer.parse_notStruct trusted) buf

end DpktNg.Link
