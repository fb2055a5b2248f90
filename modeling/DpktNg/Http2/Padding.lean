/-
Frames with padding: what the classes for DATA, HEADERS and PUSH_PROMISE read
out of a frame that was encoded with its pad length, its content and padding.
-/

import DpktNg.Http2.Splitting

namespace DpktNg.Http2

open Library

/-! ### Encoded frames -/

structure Dependency where
  exclusive : Bool
  streamDep : Nat
  weight : Nat
  streamDep_lt : streamDep < 2 ^ 31
  weight_pos : 0 < weight
  weight_le : weight ≤ 256

def Dependency.bytes (self : Dependency) : Bytes :=
  beBytes 4 ((if self.exclusive then 2 ^ 31 else 0) + self.streamDep) ++
    beBytes 1 (self.weight - 1)

def Dependency.priority (self : Dependency) : Priority where
  exclusive := self.exclusive
  streamDep := self.streamDep
  weight := self.weight

inductive WireContent where
  | data (payload : Bytes)
  | headers (dependency : Option Dependency) (blockFragment : Bytes)
  | pushPromise (promisedId : Nat) (id_lt : promisedId < 2 ^ 31)
      (blockFragment : Bytes)

namespace WireContent

def type : WireContent → Nat
  | .data _ => 0
  | .headers _ _ => 1
  | .pushPromise _ _ _ => 5

def bytes : WireContent → Bytes
  | .data payload => payload
  | .headers dependency blockFragment =>
      dependency.elim [] Dependency.bytes ++ blockFragment
  | .pushPromise promisedId _ blockFragment =>
      beBytes 4 promisedId ++ blockFragment

/-- The PRIORITY flag is set for a dependency, and it means nothing outside
of HEADERS. -/
def FlagFits (flags : Nat) : WireContent → Prop
  | .headers dependency _ =>
      flags &&& http2FlagPriority ≠ 0 ↔ dependency.isSome
  | _ => True

end WireContent

/-- What is between the header and the next frame. -/
def wirePayload (padding : Option Bytes) (content : WireContent) : Bytes :=
  match padding with
  | none => content.bytes
  | some padding => UInt8.ofNat padding.length :: content.bytes ++ padding

structure WireFrame where
  flags : Nat
  streamId : Nat
  padding : Option Bytes
  content : WireContent
  flags_lt : flags < 256
  streamId_lt : streamId < 2 ^ 32
  padding_le : ∀ bytes, padding = some bytes → bytes.length ≤ 255
  padded : flags &&& http2FlagPadded ≠ 0 ↔ padding.isSome
  prioritized : content.FlagFits flags
  fits : (wirePayload padding content).length < 2 ^ 24

namespace WireFrame

variable (wire : WireFrame)

def payload : Bytes := wirePayload wire.padding wire.content

def header : Bytes :=
  beBytes 3 wire.payload.length ++ (beBytes 1 wire.content.type ++
    (beBytes 1 wire.flags ++ beBytes 4 wire.streamId))

def bytes : Bytes := wire.header ++ wire.payload

def padLength : Option Nat := wire.padding.map List.length

def fields : Fields :=
  match wire.content with
  | .data payload => .data wire.padLength payload
  | .headers dependency blockFragment =>
      .headers wire.padLength (dependency.map Dependency.priority) blockFragment
  | .pushPromise promisedId _ blockFragment =>
      .pushPromise wire.padLength promisedId blockFragment

def Recovered : Prop :=
  ∃ header, frameFactory wire.bytes = .ok ⟨header, wire.fields⟩

/-- The data that `PaddedFrame` leaves: nothing when the padding is there but
empty. -/
def unpadded : Bytes :=
  if wire.padding = some [] then [] else wire.content.bytes

/-! ### The parsed header -/

theorem header_length : wire.header.length = 9 := by
  unfold header
  simp only [List.length_append, beBytes_length]

theorem declared_eq : declared wire.bytes = wire.payload.length := by
  have first : wire.bytes.take 3 = beBytes 3 wire.payload.length := by
    unfold bytes header
    rw [List.append_assoc]
    exact List.take_left' (beBytes_length 3 _)
  unfold declared
  rw [first]
  exact beNat_beBytes wire.fits

theorem complete : Complete wire.bytes := by
  unfold Complete
  rw [declared_eq]
  unfold bytes
  rw [List.length_append, header_length]

theorem headerOf_eq :
    headerOf wire.bytes =
      { lengthBytes := beBytes 3 wire.payload.length
        type := wire.content.type
        flags := wire.flags
        streamId := wire.streamId
        data := wire.payload } := by
  have declares := wire.declared_eq
  have length := wire.header_length
  have flags := wire.flags_lt
  have streamId := wire.streamId_lt
  have type : wire.content.type < 256 := by
    cases wire.content <;> simp only [WireContent.type] <;> decide
  have cutOut : ∀ front middle behind : Bytes, ∀ start stop : Nat,
      wire.bytes = front ++ middle ++ behind → front.length = start →
        start + middle.length = stop → cut wire.bytes start stop = middle := by
    intro front middle behind start stop same first second
    rw [same, ← second, ← first]
    exact cut_append front middle behind
  have lengthBytes : wire.bytes.take 3 = beBytes 3 wire.payload.length := by
    unfold bytes header
    rw [List.append_assoc]
    exact List.take_left' (beBytes_length 3 _)
  have typeByte : cut wire.bytes 3 4 = beBytes 1 wire.content.type := by
    apply cutOut (beBytes 3 wire.payload.length) _
      (beBytes 1 wire.flags ++ beBytes 4 wire.streamId ++ wire.payload)
    · unfold bytes header
      simp only [List.append_assoc]
    · exact beBytes_length 3 _
    · rw [beBytes_length]
  have flagsByte : cut wire.bytes 4 5 = beBytes 1 wire.flags := by
    apply cutOut (beBytes 3 wire.payload.length ++ beBytes 1 wire.content.type) _
      (beBytes 4 wire.streamId ++ wire.payload)
    · unfold bytes header
      simp only [List.append_assoc]
    · simp only [List.length_append, beBytes_length]
    · rw [beBytes_length]
  have idBytes : cut wire.bytes 5 9 = beBytes 4 wire.streamId := by
    apply cutOut (beBytes 3 wire.payload.length ++
      beBytes 1 wire.content.type ++ beBytes 1 wire.flags) _ wire.payload
    · unfold bytes header
      simp only [List.append_assoc]
    · simp only [List.length_append, beBytes_length]
    · rw [beBytes_length]
  have data : cut wire.bytes 9 (9 + wire.payload.length) = wire.payload := by
    apply cutOut wire.header _ []
    · rw [List.append_nil]
      rfl
    · exact length
    · rfl
  unfold headerOf
  rw [lengthBytes, typeByte, flagsByte, idBytes, declares, data,
    beNat_beBytes (by omega), beNat_beBytes (by omega),
    beNat_beBytes (by omega)]

theorem headerOf_length_eq :
    (headerOf wire.bytes).length = wire.payload.length := by
  rw [headerOf_length, declared_eq]

theorem withoutPadding_eq (first : UInt8) (content padding : Bytes) :
    withoutPadding (first :: content ++ padding) padding.length =
      if padding = [] then [] else content := by
  unfold withoutPadding
  by_cases empty : padding = []
  · rw [if_pos empty, if_pos (by rw [empty]; rfl)]
    rfl
  · have positive : padding.length ≠ 0 := by
      intro zero
      exact empty (List.eq_nil_of_length_eq_zero zero)
    rw [if_neg empty, if_neg positive, List.length_append,
      Nat.add_sub_cancel]
    unfold cut
    rw [List.cons_append, List.drop_succ_cons, List.drop_zero,
      List.length_cons, Nat.add_sub_cancel]
    exact List.take_left

theorem padded_eq :
    Http2.padded (headerOf wire.bytes) = .ok (wire.padLength, wire.unpadded) := by
  have flag := wire.padded
  have length := wire.headerOf_length_eq
  unfold Http2.padded
  rw [length, wire.headerOf_eq]
  dsimp only
  unfold padLength unpadded
  cases padded : wire.padding with
  | none =>
      rw [padded] at flag
      have unset : ¬wire.flags &&& http2FlagPadded ≠ 0 := by
        intro set
        exact absurd (flag.mp set) (by decide)
      rw [if_neg unset]
      unfold payload wirePayload
      rw [padded]
      rfl
  | some padding =>
      rw [padded] at flag
      have short := wire.padding_le padding padded
      have whole : wire.payload =
          UInt8.ofNat padding.length :: wire.content.bytes ++ padding := by
        unfold payload wirePayload
        rw [padded]
      have padByte : unpackBe 1 (wire.payload.take 1) = .ok padding.length := by
        rw [whole]
        change unpackBe 1 [UInt8.ofNat padding.length] = _
        apply Eq.trans (if_pos rfl)
        change Except.ok (0 * 256 + (UInt8.ofNat padding.length).toNat) = _
        rw [UInt8.toNat_ofNat', Nat.zero_mul, Nat.zero_add,
          Nat.mod_eq_of_lt (by omega)]
      have longer : padding.length < wire.payload.length := by
        rw [whole, List.length_append, List.length_cons]
        omega
      rw [if_pos (flag.mpr rfl), if_neg (by omega), padByte, ok_bind,
        if_neg (by omega), whole, withoutPadding_eq]
      simp only [Option.map_some, Option.some.injEq]

/-! ### The three classes -/

theorem recovered_iff_fields {className : String}
    {classFields : FrameHeader → Except PyError Fields}
    (known : frameTypes wire.content.type = some (className, classFields)) :
    wire.Recovered ↔ classFields (headerOf wire.bytes) = .ok wire.fields := by
  have four : 4 ≤ wire.bytes.length := by
    unfold bytes
    rw [List.length_append, header_length]
    omega
  have type : (headerOf wire.bytes).type = wire.content.type := by
    rw [wire.headerOf_eq]
  unfold Recovered
  rw [frameFactory_eq four, type, known]
  dsimp only
  rw [frameClass_eq wire.complete]
  constructor
  · intro recovered
    obtain ⟨header, parsed⟩ := recovered
    rw [packetInit_eq_ok] at parsed
    obtain ⟨found, read, same⟩ := bind_eq_ok.mp parsed
    rw [Except.ok.injEq, Frame.mk.injEq] at same
    rw [read, same.2]
  · intro read
    refine ⟨headerOf wire.bytes, packetInit_eq_ok.mpr ?_⟩
    rw [read]
    rfl

end WireFrame

theorem exclusive_bit {streamDep : Nat} (small : streamDep < 2 ^ 31)
    (exclusive : Bool) :
    ((if exclusive then 2 ^ 31 else 0) + streamDep) &&& 0x80000000 ≠ 0 ↔
      exclusive = true := by
  have bit := Nat.and_two_pow
    ((if exclusive then 2 ^ 31 else 0) + streamDep) 31
  rw [Nat.testBit_eq_decide_div_mod_eq] at bit
  change _ &&& 2 ^ 31 ≠ 0 ↔ _
  rw [bit]
  cases exclusive with
  | false =>
      have zero : streamDep / 2147483648 % 2 = 0 := by omega
      simp [zero]
  | true =>
      have one : (2 ^ 31 + streamDep) / 2 ^ 31 % 2 = 1 := by omega
      simp only [if_true, one, decide_true, Bool.toNat_true]
      decide

theorem streamDep_bits {streamDep : Nat} (small : streamDep < 2 ^ 31)
    (exclusive : Bool) :
    ((if exclusive then 2 ^ 31 else 0) + streamDep) &&& 0x7fffffff =
      streamDep := by
  change _ &&& (2 ^ 31 - 1) = _
  rw [Nat.and_two_pow_sub_one_eq_mod]
  split <;> omega

theorem Dependency.bytes_length (self : Dependency) :
    self.bytes.length = 5 := by
  unfold bytes
  simp only [List.length_append, beBytes_length]

theorem Dependency.parse (self : Dependency) :
    Http2.priority self.bytes = .ok self.priority := by
  have small := self.streamDep_lt
  have positive := self.weight_pos
  have range := self.weight_le
  have length := self.bytes_length
  have word : (if self.exclusive then 2 ^ 31 else 0) + self.streamDep <
      256 ^ 4 := by
    split <;> omega
  have first : cut (self.bytes.take 5) 0 4 =
      beBytes 4 ((if self.exclusive then 2 ^ 31 else 0) + self.streamDep) := by
    rw [List.take_of_length_le (by omega)]
    exact List.take_left' (beBytes_length 4 _)
  have second : cut (self.bytes.take 5) 4 5 = beBytes 1 (self.weight - 1) := by
    rw [List.take_of_length_le (by omega)]
    have whole := cut_append (beBytes 4 ((if self.exclusive then 2 ^ 31 else 0) +
      self.streamDep)) (beBytes 1 (self.weight - 1)) []
    rw [List.append_nil, beBytes_length, beBytes_length] at whole
    exact whole
  have rest : ¬(self.bytes.drop 5).length ≠ 0 := by
    rw [List.length_drop, length]
    decide
  apply packetInit_eq_ok.mpr
  unfold takeHeader
  rw [if_neg (by omega), ok_bind]
  dsimp only
  rw [first, second, if_neg rest, beNat_beBytes word, beNat_beBytes (by omega),
    streamDep_bits small, Nat.sub_add_cancel positive]
  unfold priority
  congr 2
  rw [Bool.eq_iff_iff, decide_eq_true_iff]
  exact exclusive_bit small self.exclusive

namespace WireFrame

variable (wire : WireFrame)

/-- The frame has content that its class reads: with padding but a pad length
of zero nothing is read, and a padded PUSH_PROMISE is read from the pad length
on. -/
def ContentRead : Prop :=
  match wire.padding with
  | none => True
  | some padding =>
      match wire.content with
      | .data payload => padding ≠ [] ∨ payload = []
      | .headers none blockFragment => padding ≠ [] ∨ blockFragment = []
      | .headers (some _) _ => padding ≠ []
      | .pushPromise promisedId _ _ =>
          padding ≠ [] ∧ promisedId = padding.length * 0x01010101

theorem unpadded_of_ne {padding : Bytes} (padded : wire.padding = some padding)
    (nonempty : padding ≠ []) : wire.unpadded = wire.content.bytes := by
  unfold unpadded
  rw [if_neg]
  rw [padded]
  simpa using nonempty

theorem unpadded_of_none (plain : wire.padding = none) :
    wire.unpadded = wire.content.bytes := by
  unfold unpadded
  rw [plain]
  rfl

theorem unpadded_of_nil (padded : wire.padding = some []) :
    wire.unpadded = [] := by
  unfold unpadded
  rw [if_pos padded]

theorem unpadded_eq_iff :
    wire.unpadded = wire.content.bytes ↔
      (∀ padding, wire.padding = some padding →
        padding ≠ [] ∨ wire.content.bytes = []) := by
  cases padded : wire.padding with
  | none =>
      constructor
      · intro _same padding impossible
        cases impossible
      · intro _condition
        exact wire.unpadded_of_none padded
  | some padding =>
      by_cases empty : padding = []
      · rw [empty] at padded
        rw [wire.unpadded_of_nil padded]
        constructor
        · intro same _padding _found
          exact Or.inr same.symm
        · intro condition
          rcases condition padding rfl with nonempty | nothing
          · exact absurd empty nonempty
          · exact nothing.symm
      · constructor
        · intro _same other found
          cases found
          exact Or.inl empty
        · intro _condition
          exact wire.unpadded_of_ne padded empty

theorem data_recovered_iff {payload : Bytes}
    (content : wire.content = .data payload) :
    wire.Recovered ↔ wire.ContentRead := by
  have known : frameTypes wire.content.type = some ("DataFrame", dataFields) := by
    rw [content]
    rfl
  have read : dataFields (headerOf wire.bytes) =
      .ok (.data wire.padLength wire.unpadded) := by
    unfold dataFields
    rw [wire.padded_eq, ok_bind]
  have bytes : wire.content.bytes = payload := by rw [content]; rfl
  have left := wire.unpadded_eq_iff
  rw [bytes] at left
  rw [wire.recovered_iff_fields known, read]
  unfold fields ContentRead
  rw [content, Except.ok.injEq, Fields.data.injEq, left]
  cases wire.padding with
  | none => simp
  | some padding => simp

theorem headers_recovered_iff {dependency : Option Dependency}
    {blockFragment : Bytes}
    (content : wire.content = .headers dependency blockFragment) :
    wire.Recovered ↔ wire.ContentRead := by
  have known : frameTypes wire.content.type =
      some ("HeadersFrame", headersFields) := by
    rw [content]
    rfl
  have flags : (headerOf wire.bytes).flags = wire.flags := by
    rw [wire.headerOf_eq]
  have flag := wire.prioritized
  rw [content] at flag
  change wire.flags &&& http2FlagPriority ≠ 0 ↔ dependency.isSome at flag
  have left := wire.unpadded_eq_iff
  rw [wire.recovered_iff_fields known]
  unfold headersFields
  rw [wire.padded_eq, ok_bind, flags]
  dsimp only
  cases dependency with
  | none =>
      have unset : ¬wire.flags &&& http2FlagPriority ≠ 0 := by
        intro set
        exact absurd (flag.mp set) (by decide)
      have bytes : wire.content.bytes = blockFragment := by
        rw [content]
        rfl
      rw [bytes] at left
      rw [if_neg unset]
      unfold fields ContentRead
      rw [content, Except.ok.injEq, Fields.headers.injEq, left]
      cases wire.padding with
      | none => simp
      | some padding => simp
  | some self =>
      have bytes : wire.content.bytes = self.bytes ++ blockFragment := by
        rw [content]
        rfl
      rw [if_pos (flag.mpr rfl)]
      by_cases empty : wire.padding = some []
      · rw [wire.unpadded_of_nil empty, if_pos (by decide)]
        unfold ContentRead
        rw [empty, content]
        constructor
        · intro impossible
          cases impossible
        · intro impossible
          exact absurd rfl impossible
      · have whole : wire.unpadded = self.bytes ++ blockFragment := by
          unfold unpadded
          rw [if_neg empty, bytes]
        have long : ¬(self.bytes ++ blockFragment).length < 5 := by
          rw [List.length_append, self.bytes_length]
          omega
        have first : (self.bytes ++ blockFragment).take 5 = self.bytes :=
          List.take_left' self.bytes_length
        have behind : (self.bytes ++ blockFragment).drop 5 = blockFragment :=
          List.drop_left' self.bytes_length
        rw [whole, if_neg long, first, self.parse, ok_bind, behind]
        unfold fields ContentRead
        rw [content]
        cases padded : wire.padding with
        | none => simp
        | some padding =>
            rw [padded] at empty
            constructor
            · intro _read same
              rw [same] at empty
              exact empty rfl
            · intro _nonempty
              rfl

theorem padded_id {padLength promisedId : Nat} (short : padLength ≤ 255)
    (small : promisedId < 2 ^ 31) (rest : Bytes) :
    beNat ((UInt8.ofNat padLength :: beBytes 4 promisedId ++ rest).take 4) =
      promisedId ↔ promisedId = padLength * 0x01010101 := by
  have three : (UInt8.ofNat padLength :: beBytes 4 promisedId ++ rest).take 4 =
      UInt8.ofNat padLength :: beBytes 3 (promisedId / 256) := by
    rw [List.cons_append, List.take_succ_cons, beBytes, List.append_assoc,
      List.take_left' (beBytes_length 3 _)]
  have head : ∀ first : UInt8, ∀ bytes : Bytes,
      beNat (first :: bytes) = first.toNat * 256 ^ bytes.length + beNat bytes := by
    intro first bytes
    induction bytes using List.reverseRecOn with
    | nil =>
        change 0 * 256 + first.toNat = first.toNat * 256 ^ 0 + 0
        omega
    | append_singleton before last ih =>
        rw [← List.cons_append, beNat_snoc, beNat_snoc, ih,
          List.length_append, List.length_singleton, pow_succ]
        ring
  rw [three, head, beBytes_length, beNat_beBytes (by omega),
    UInt8.toNat_ofNat', Nat.mod_eq_of_lt (by omega)]
  constructor <;> intro same <;> omega

theorem pushPromise_recovered_iff {promisedId : Nat}
    {id_lt : promisedId < 2 ^ 31} {blockFragment : Bytes}
    (content : wire.content = .pushPromise promisedId id_lt blockFragment) :
    wire.Recovered ↔ wire.ContentRead := by
  have known : frameTypes wire.content.type =
      some ("PushPromiseFrame", pushPromiseFields) := by
    rw [content]
    rfl
  have data : (headerOf wire.bytes).data = wire.payload := by
    rw [wire.headerOf_eq]
  have bytes : wire.content.bytes = beBytes 4 promisedId ++ blockFragment := by
    rw [content]
    rfl
  have long : ¬(beBytes 4 promisedId ++ blockFragment).length < 4 := by
    rw [List.length_append, beBytes_length]
    omega
  have behind : (beBytes 4 promisedId ++ blockFragment).drop 4 =
      blockFragment := List.drop_left' (beBytes_length 4 _)
  have word : ∀ bytes : Bytes, 4 ≤ bytes.length →
      unpackBe 4 (bytes.take 4) = .ok (beNat (bytes.take 4)) := by
    intro bytes enough
    unfold unpackBe
    rw [if_pos]
    rw [List.length_take]
    omega
  rw [wire.recovered_iff_fields known]
  unfold pushPromiseFields
  rw [wire.padded_eq, ok_bind, data]
  dsimp only
  unfold ContentRead
  rw [content]
  cases padded : wire.padding with
  | none =>
      have first : (beBytes 4 promisedId ++ blockFragment).take 4 =
          beBytes 4 promisedId := List.take_left' (beBytes_length 4 _)
      have whole : wire.payload = beBytes 4 promisedId ++ blockFragment := by
        unfold payload wirePayload
        rw [padded, ← bytes]
      rw [wire.unpadded_of_none padded, bytes, if_neg long, whole,
        word _ (by omega), ok_bind, first, beNat_beBytes (by omega), behind]
      unfold fields
      rw [content]
      simp
  | some padding =>
      have short := wire.padding_le padding padded
      by_cases empty : padding = []
      · rw [empty] at padded
        rw [wire.unpadded_of_nil padded, if_pos (by decide)]
        constructor
        · intro impossible
          cases impossible
        · intro impossible
          exact absurd empty impossible.1
      · have whole : wire.payload = UInt8.ofNat padding.length ::
            beBytes 4 promisedId ++ (blockFragment ++ padding) := by
          unfold payload wirePayload
          rw [padded]
          dsimp only
          rw [bytes, ← List.cons_append, List.append_assoc]
        have enough : 4 ≤ wire.payload.length := by
          rw [whole, List.length_append, List.length_cons, beBytes_length]
          omega
        rw [wire.unpadded_of_ne padded empty, bytes, if_neg long,
          word _ enough, ok_bind, behind]
        unfold fields
        rw [content, Except.ok.injEq, Fields.pushPromise.injEq, whole,
          padded_id short id_lt]
        simp [empty]

/-- The content of a frame comes back unless it is padded with a pad length of
zero, or it is a padded PUSH_PROMISE, of which the promised id is read with the
pad length. -/
theorem padding_removed_iff (wire : WireFrame) :
    wire.Recovered ↔ wire.ContentRead := by
  cases content : wire.content with
  | data payload => exact wire.data_recovered_iff content
  | headers dependency blockFragment =>
      exact wire.headers_recovered_iff content
  | pushPromise promisedId id_lt blockFragment =>
      exact wire.pushPromise_recovered_iff content

end WireFrame

/-- A padded DATA frame of one byte with a pad length of zero. -/
def emptyPadding : WireFrame where
  flags := 0x08
  streamId := 1
  padding := some []
  content := .data [0x61]
  flags_lt := by decide
  streamId_lt := by decide
  padding_le := by
    intro bytes same
    cases same
    decide
  padded := by decide
  prioritized := trivial
  fits := by decide

theorem emptyPadding_loses_data : ¬∀ wire : WireFrame, wire.Recovered := by
  intro always
  obtain ⟨header, parsed⟩ := always emptyPadding
  have found : frameFactory emptyPadding.bytes =
      .ok ⟨⟨[0, 0, 2], 0, 8, 1, [0, 0x61]⟩, .data (some 0) []⟩ := by
    decide +kernel
  rw [found, Except.ok.injEq, Frame.mk.injEq] at parsed
  exact absurd parsed.2 (by decide)

end DpktNg.Http2
