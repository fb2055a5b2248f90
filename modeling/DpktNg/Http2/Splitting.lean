/-
The splitting of a byte stream into HTTP/2 frames: which bytes the frames of
`frame_multi_factory` account for, and where it waits for more.
-/

import DpktNg.Http2.Frame

namespace DpktNg.Http2

open Library

/-! ### Frames on the wire -/

/-- The length that the first three bytes declare. -/
def declared (buf : Bytes) : Nat := beNat (buf.take 3)

/-- The buffer starts with a whole frame. -/
def Complete (buf : Bytes) : Prop := 9 + declared buf ≤ buf.length

instance (buf : Bytes) : Decidable (Complete buf) :=
  inferInstanceAs (Decidable (_ ≤ _))

/-- Some bytes of a frame: less than its header, or than its declared length. -/
def Incomplete (rest : Bytes) : Prop :=
  rest ≠ [] ∧ (rest.length < 9 ∨ rest.length < 9 + declared rest)

theorem incomplete_iff {rest : Bytes} :
    Incomplete rest ↔ rest ≠ [] ∧ ¬Complete rest := by
  unfold Incomplete Complete
  constructor
  · intro incomplete
    exact ⟨incomplete.1, by omega⟩
  · intro incomplete
    exact ⟨incomplete.1, by omega⟩

theorem not_complete_nil : ¬Complete [] := by decide

def headerOf (buf : Bytes) : FrameHeader where
  lengthBytes := buf.take 3
  type := beNat (cut buf 3 4)
  flags := beNat (cut buf 4 5)
  streamId := beNat (cut buf 5 9)
  data := cut buf 9 (9 + declared buf)

theorem beNat_zero_cons (bytes : Bytes) : beNat (0 :: bytes) = beNat bytes := rfl

theorem headerOf_length (buf : Bytes) : (headerOf buf).length = declared buf :=
  beNat_zero_cons _

theorem headerOf_data_length {buf : Bytes} (complete : Complete buf) :
    (headerOf buf).data.length = declared buf := by
  unfold Complete at complete
  unfold headerOf cut
  rw [List.length_take, List.length_drop]
  omega

theorem unpack_complete {buf : Bytes} (complete : Complete buf) :
    FrameHeader.unpack buf = .ok (headerOf buf) := by
  have data := headerOf_data_length complete
  unfold Complete at complete
  have long : ¬buf.length < 9 := by omega
  have lengthBytes : (buf.take 9).take 3 = buf.take 3 := List.take_take
  have payload : (buf.drop 9).take (beNat (buf.take 3)) =
      (headerOf buf).data := by
    unfold headerOf cut declared
    rw [Nat.add_sub_cancel_left]
  have whole : ¬(headerOf buf).data.length ≠ beNat (buf.take 3) :=
    not_not_intro data
  unfold FrameHeader.unpack takeHeader
  rw [if_neg long, ok_bind]
  dsimp only
  rw [lengthBytes, beNat_zero_cons, payload, if_neg whole,
    cut_take (by omega), cut_take (by omega), cut_take (by omega)]
  rfl

theorem unpack_incomplete {buf : Bytes} (incomplete : ¬Complete buf) :
    (buf.length < 9 ∧ FrameHeader.unpack buf = .error .structError) ∨
      FrameHeader.unpack buf = .error needData := by
  unfold Complete at incomplete
  unfold FrameHeader.unpack takeHeader
  by_cases short : buf.length < 9
  · left
    rw [if_pos short]
    exact ⟨short, rfl⟩
  · right
    have lengthBytes : (buf.take 9).take 3 = buf.take 3 := List.take_take
    rw [if_neg short, ok_bind]
    dsimp only
    rw [lengthBytes, beNat_zero_cons, if_pos]
    change ((buf.drop 9).take (declared buf)).length ≠ declared buf
    rw [List.length_take, List.length_drop]
    omega

/-! ### Errors that are not `NeedData` -/

def NotNeedData (problem : PyError) : Prop := ∀ message, problem ≠ .needData message

theorem notNeedData_struct : NotNeedData .structError :=
  fun _message impossible => by cases impossible

theorem notNeedData_exception (message : String) :
    NotNeedData (http2Exception message) :=
  fun _message impossible => by cases impossible

theorem unpackBe_notNeedData (width : Nat) (bytes : Bytes) :
    RaisesOnly NotNeedData (unpackBe width bytes) := by
  unfold unpackBe
  split
  · exact raisesOnly_ok _
  · exact raisesOnly_error.mpr notNeedData_struct

/-- With its whole header, a class raises `NeedData` only where its own parser
does. -/
theorem packetInit_notNeedData {α : Type} {className : String} {needed : Nat}
    {unpack : Bytes → Except PyError α} {buf : Bytes}
    (enough : needed ≤ buf.length)
    (raises : RaisesOnly NotNeedData (unpack buf)) :
    RaisesOnly NotNeedData (packetInit className (some needed) unpack buf) := by
  unfold packetInit
  split
  · dsimp only
    rw [if_neg (by omega)]
    exact raisesOnly_error.mpr fun _message impossible => by cases impossible
  · exact raises

theorem priority_notNeedData {buf : Bytes} (enough : 5 ≤ buf.length) :
    RaisesOnly NotNeedData (priority buf) := by
  apply packetInit_notNeedData enough
  unfold takeHeader
  rw [if_neg (by omega), ok_bind]
  dsimp only
  split
  · exact raisesOnly_error.mpr (notNeedData_exception _)
  · exact raisesOnly_ok _

theorem priority_short {buf : Bytes} (short : buf.length < 5) :
    priority buf = .error (.tooShort buf.length 5) := by
  apply packetInit_short
  · unfold takeHeader
    rw [if_pos short]
    rfl
  · exact short

theorem setting_notNeedData {buf : Bytes} (enough : 6 ≤ buf.length) :
    RaisesOnly NotNeedData (setting buf) := by
  apply packetInit_notNeedData enough
  unfold takeHeader
  rw [if_neg (by omega)]
  exact raisesOnly_ok _

section Fields

variable {self : FrameHeader}

theorem padded_notNeedData : RaisesOnly NotNeedData (padded self) := by
  unfold padded
  split
  · split
    · exact raisesOnly_error.mpr (notNeedData_exception _)
    · apply (unpackBe_notNeedData 1 _).bind
      intro padLength _read
      split
      · exact raisesOnly_error.mpr (notNeedData_exception _)
      · exact raisesOnly_ok _
  · exact raisesOnly_ok _

theorem headersFields_notNeedData :
    RaisesOnly NotNeedData (headersFields self) := by
  unfold headersFields
  apply padded_notNeedData.bind
  intro unpadded _removed
  dsimp only
  split
  · split
    · exact raisesOnly_error.mpr (notNeedData_exception _)
    · rename_i enough
      have five : 5 ≤ (unpadded.2.take 5).length := by
        rw [List.length_take]
        omega
      apply (priority_notNeedData five).bind
      intro dependency _parsed
      exact raisesOnly_ok _
  · exact raisesOnly_ok _

theorem settingList_notNeedData {data : Bytes} {count : Nat}
    (enough : 6 * count ≤ data.length) :
    RaisesOnly NotNeedData (settingList data count) := by
  induction count generalizing data with
  | zero => exact raisesOnly_ok _
  | succ count ih =>
      have six : 6 ≤ (data.take 6).length := by
        rw [List.length_take]
        omega
      have others : 6 * count ≤ (data.drop 6).length := by
        rw [List.length_drop]
        omega
      rw [settingList]
      apply (setting_notNeedData six).bind
      intro first _parsed
      apply (ih others).bind
      intro rest _parsedRest
      exact raisesOnly_ok _

theorem checked_notNeedData {bad : Prop} [Decidable bad] {message : String}
    {fields : Except PyError Fields}
    (fine : ¬bad → RaisesOnly NotNeedData fields) :
    RaisesOnly NotNeedData
      (if bad then .error (http2Exception message) else fields) := by
  split
  · exact raisesOnly_error.mpr (notNeedData_exception _)
  · rename_i good
    exact fine good

theorem integer_notNeedData {width : Nat} {bytes : Bytes}
    {build : Nat → Fields} :
    RaisesOnly NotNeedData
      (unpackBe width bytes >>= fun value => .ok (build value)) := by
  apply (unpackBe_notNeedData width bytes).bind
  intro value _read
  exact raisesOnly_ok _

theorem pushPromiseFields_notNeedData :
    RaisesOnly NotNeedData (pushPromiseFields self) := by
  unfold pushPromiseFields
  apply padded_notNeedData.bind
  intro unpadded _removed
  exact checked_notNeedData fun _enough => integer_notNeedData

theorem goAwayFields_notNeedData :
    RaisesOnly NotNeedData (goAwayFields self) := by
  unfold goAwayFields
  apply checked_notNeedData
  intro _enough
  apply (unpackBe_notNeedData 4 _).bind
  intro lastStreamId _read
  exact integer_notNeedData

/-- Of the classes of complete frames only PRIORITY raises `NeedData`. -/
theorem fields_notNeedData {t : Nat} {className : String}
    {fields : FrameHeader → Except PyError Fields}
    (known : frameTypes t = some (className, fields))
    (whole : self.data.length = self.length)
    (long : t = 2 → 5 ≤ self.data.length) :
    RaisesOnly NotNeedData (fields self) := by
  unfold frameTypes at known
  split at known
  · cases known
    unfold dataFields
    apply padded_notNeedData.bind
    intro unpadded _removed
    exact raisesOnly_ok _
  · cases known
    exact headersFields_notNeedData
  · cases known
    unfold priorityFields
    apply (priority_notNeedData (long rfl)).bind
    intro dependency _parsed
    exact raisesOnly_ok _
  · cases known
    exact checked_notNeedData fun _four => integer_notNeedData
  · cases known
    unfold settingsFields
    apply checked_notNeedData
    intro _multiple
    have enough : 6 * (self.length / 6) ≤ self.data.length := by omega
    apply (settingList_notNeedData enough).bind
    intro settings _parsed
    exact raisesOnly_ok _
  · cases known
    exact pushPromiseFields_notNeedData
  · cases known
    exact checked_notNeedData fun _eight => raisesOnly_ok _
  · cases known
    exact goAwayFields_notNeedData
  · cases known
    exact checked_notNeedData fun _four => integer_notNeedData
  · cases known
    exact raisesOnly_ok _
  · cases known

end Fields

/-! ### One frame -/

/-- A whole PRIORITY frame whose payload is shorter than its five bytes. -/
def ShortPriority (rest : Bytes) : Prop :=
  Complete rest ∧ (headerOf rest).type = 2 ∧ declared rest < 5

theorem frameClass_eq {className : String}
    {fields : FrameHeader → Except PyError Fields} {buf : Bytes}
    (complete : Complete buf) :
    frameClass className fields buf =
      packetInit className (some 9) (fun _buf => do
        .ok ⟨headerOf buf, ← fields (headerOf buf)⟩) buf := by
  apply packetInit_congr
  rw [unpack_complete complete, ok_bind]

theorem frameClass_incomplete {className : String}
    {fields : FrameHeader → Except PyError Fields} {buf : Bytes}
    (incomplete : ¬Complete buf) :
    ∃ message, frameClass className fields buf = .error (.needData message) := by
  rcases unpack_incomplete incomplete with headerCut | failed
  · refine ⟨_, packetInit_short ?_ headerCut.1⟩
    rw [headerCut.2]
    rfl
  · refine ⟨[], packetInit_passes ?_ (by decide)⟩
    rw [failed]
    rfl

theorem frameFactory_eq {buf : Bytes} (enough : 4 ≤ buf.length) :
    frameFactory buf =
      match frameTypes (headerOf buf).type with
      | none => .error (.other "HTTP2Exception"
          ("Invalid frame type: ".toList ++ hex (headerOf buf).type))
      | some (className, fields) => frameClass className fields buf := by
  have byte : unpackBe 1 (cut buf 3 4) = .ok (headerOf buf).type := by
    unfold unpackBe
    rw [if_pos]
    · rfl
    · unfold cut
      rw [List.length_take, List.length_drop]
      omega
  unfold frameFactory
  rw [if_neg (by omega), byte]
  rfl

theorem frameFactory_ok {buf : Bytes} {frame : Frame}
    (parsed : frameFactory buf = .ok frame) :
    Complete buf ∧ frame.header = headerOf buf ∧ ¬ShortPriority buf := by
  by_cases enough : 4 ≤ buf.length
  · rw [frameFactory_eq enough] at parsed
    split at parsed
    · cases parsed
    · rename_i className fields known
      have complete : Complete buf := by
        by_contra incomplete
        obtain ⟨message, failed⟩ :=
          @frameClass_incomplete className fields buf incomplete
        rw [failed] at parsed
        cases parsed
      rw [frameClass_eq complete, packetInit_eq_ok] at parsed
      obtain ⟨found, read, same⟩ := bind_eq_ok.mp parsed
      rw [Except.ok.injEq] at same
      refine ⟨complete, by rw [← same], ?_⟩
      intro short
      have data := headerOf_data_length complete
      rw [short.2.1] at known
      cases known
      unfold priorityFields at read
      rw [priority_short (by rw [data]; exact short.2.2)] at read
      cases read
  · unfold frameFactory at parsed
    rw [if_pos (by omega)] at parsed
    cases parsed

/-- Where the factory waits for more, the frame is not whole, or it is a
PRIORITY frame that will never be longer. -/
theorem frameFactory_needData {buf : Bytes} {message : PyStr}
    (waits : frameFactory buf = .error (.needData message)) :
    ¬Complete buf ∨ ShortPriority buf := by
  by_cases complete : Complete buf
  · right
    have data := headerOf_data_length complete
    have enough : 4 ≤ buf.length := by
      unfold Complete at complete
      omega
    rw [frameFactory_eq enough] at waits
    split at waits
    · cases waits
    · rename_i className fields known
      by_contra notShort
      have long : (headerOf buf).type = 2 → 5 ≤ (headerOf buf).data.length := by
        intro typed
        rw [data]
        by_contra short
        exact notShort ⟨complete, typed, by omega⟩
      have whole : (headerOf buf).data.length = (headerOf buf).length := by
        rw [data, headerOf_length]
      have fine := fields_notNeedData known whole long
      rw [frameClass_eq complete] at waits
      have nine : 9 ≤ buf.length := by
        unfold Complete at complete
        omega
      have never : RaisesOnly NotNeedData (packetInit className (some 9)
          (fun _buf => fields (headerOf buf) >>= fun found =>
            Except.ok (Frame.mk (headerOf buf) found)) buf) := by
        apply packetInit_notNeedData nine
        apply fine.bind
        intro found _read
        exact raisesOnly_ok _
      exact never _ waits message rfl
  · left
    exact complete

/-! ### All frames -/

def joinBytes : List Frame → Except PyError Bytes
  | [] => .ok []
  | frame :: rest => do .ok ((← frame.header.bytes) ++ (← joinBytes rest))

/-- Going from frame to frame by the declared lengths. -/
inductive Reaches : Bytes → Bytes → Prop where
  | here (buf : Bytes) : Reaches buf buf
  | next {buf rest : Bytes} (complete : Complete buf)
      (behind : Reaches (buf.drop (9 + declared buf)) rest) : Reaches buf rest

theorem headerOf_bytes {buf : Bytes} (complete : Complete buf) :
    (headerOf buf).bytes = .ok (buf.take (9 + declared buf)) := by
  unfold Complete at complete
  have six : ([1, 1, 4] : List Nat).sum ≤ (buf.drop 3).length := by
    rw [List.length_drop]
    change 6 ≤ _
    omega
  have packed := packHdr_fieldValues six
  have values : [1, 1, 4].zip (fieldValues [1, 1, 4] ((buf.drop 3).take 6)) =
      [(1, (headerOf buf).type), (1, (headerOf buf).flags),
        (4, (headerOf buf).streamId)] := by
    simp [fieldValues, headerOf, cut, List.drop_take, List.take_take]
  have string : packString 3 (buf.take 3) = buf.take 3 := by
    unfold packString
    rw [List.take_append_of_le_length, List.take_take]
    · rfl
    · rw [List.length_take]
      omega
  unfold FrameHeader.bytes
  change packHdr ([1, 1, 4].zip (fieldValues [1, 1, 4] ((buf.drop 3).take 6))) =
    .ok ((buf.drop 3).take 6) at packed
  rw [values] at packed
  rw [packed, ok_bind]
  change Except.ok (packString 3 (buf.take 3) ++ (buf.drop 3).take 6 ++
    cut buf 9 (9 + declared buf)) = _
  unfold cut
  rw [string, ← List.take_add, Nat.add_sub_cancel_left, ← List.take_add]

/-- The frame that is parsed comes back from its bytes. -/
theorem framesFrom_spec (buf : Bytes) {frames : List Frame} {used : Nat}
    (returned : framesFrom buf = .ok (frames, used)) :
    used ≤ buf.length ∧ joinBytes frames = .ok (buf.take used) ∧
      Reaches buf (buf.drop used) ∧
      (buf.drop used = [] ∨ ¬Complete (buf.drop used) ∨
        ShortPriority (buf.drop used)) ∧
      ((∀ rest, Reaches (buf.drop used) rest → ¬ShortPriority rest) →
        ∀ rest, Reaches buf rest → ¬ShortPriority rest) := by
  fun_induction framesFrom buf generalizing frames used with
  | case1 buf nonempty message waits =>
      cases returned
      refine ⟨Nat.zero_le _, rfl, Reaches.here buf, ?_, fun fine => fine⟩
      rw [List.drop_zero]
      exact Or.inr (frameFactory_needData waits)
  | case2 buf nonempty problem notNeedData raised => cases returned
  | case3 buf nonempty frame parsed ih =>
      obtain ⟨found, later, same⟩ := bind_eq_ok.mp returned
      obtain ⟨others, count⟩ := found
      cases same
      obtain ⟨complete, header, notShort⟩ := frameFactory_ok parsed
      have size : frame.header.size = 9 + declared buf := by
        unfold FrameHeader.size
        rw [header, headerOf_data_length complete]
      have spec := ih later
      rw [size, List.drop_drop] at spec
      rw [size]
      refine ⟨?_, ?_, Reaches.next complete spec.2.2.1, spec.2.2.2.1, ?_⟩
      · have inside := spec.1
        rw [List.length_drop] at inside
        unfold Complete at complete
        omega
      · rw [joinBytes, header, headerOf_bytes complete, ok_bind, spec.2.1,
          ok_bind, ← List.take_add]
      · intro fine rest reached
        cases reached with
        | here => exact notShort
        | next _complete behind => exact spec.2.2.2.2 fine rest behind
  | case4 buf empty =>
      cases returned
      have nothing : buf = [] := List.eq_nil_of_length_eq_zero (by omega)
      rw [nothing]
      exact ⟨Nat.zero_le _, rfl, Reaches.here _, Or.inl rfl, fun fine => fine⟩

/-- The frames are the first `i` bytes, and something is left when it is an
incomplete frame and then alone. -/
def AccountsFor (buf : Bytes) (frames : List Frame) (i : Nat) : Prop :=
  joinBytes frames = .ok (buf.take i) ∧
    (i ≠ buf.length ↔ Incomplete (buf.drop i))

/-- A whole PRIORITY frame with less than five bytes of payload is taken for an
incomplete one.  No other frame is. -/
theorem frame_splitting_iff (buf : Bytes) (frames : List Frame) (i : Nat)
    (returned : frameMultiFactory buf false = .ok (frames, i)) :
    AccountsFor buf frames i ↔
      ∀ rest, Reaches buf rest → ¬ShortPriority rest := by
  obtain ⟨inside, joined, reached, stopped, later⟩ :=
    framesFrom_spec buf returned
  have left : i ≠ buf.length ↔ buf.drop i ≠ [] := by
    rw [Ne, Ne, List.drop_eq_nil_iff]
    omega
  unfold AccountsFor
  rw [left, incomplete_iff]
  constructor
  · intro accounts
    apply later
    intro rest further
    cases further with
    | here =>
        intro short
        have nonempty : buf.drop i ≠ [] := by
          intro empty
          rw [empty] at short
          exact not_complete_nil short.1
        exact (accounts.2.mp nonempty).2 short.1
    | next complete behind =>
        have nonempty : buf.drop i ≠ [] := by
          intro empty
          rw [empty] at complete
          exact not_complete_nil complete
        exact absurd complete (accounts.2.mp nonempty).2
  · intro fine
    refine ⟨joined, ?_⟩
    constructor
    · intro nonempty
      rcases stopped with empty | incomplete | short
      · exact absurd empty nonempty
      · exact ⟨nonempty, incomplete⟩
      · exact absurd short (fine _ reached)
    · intro incomplete
      exact incomplete.1

/-- An empty SETTINGS frame, and the start of another frame. -/
theorem settings_split :
    AccountsFor [0, 0, 0, 4, 0, 0, 0, 0, 0, 0, 0, 5]
      [⟨⟨[0, 0, 0], 4, 0, 0, []⟩, .settings []⟩] 9 := by
  apply (frame_splitting_iff _ _ _ (by decide +kernel)).mpr
  intro rest reached short
  cases reached with
  | here => exact absurd short.2.1 (by decide)
  | next complete behind =>
      cases behind with
      | here => exact absurd short.1 (by decide)
      | next impossible _further => exact absurd impossible (by decide)

/-- The PRIORITY frame without payload is whole, but the splitting waits. -/
theorem short_priority_waits :
    ¬∀ (buf : Bytes) (frames : List Frame) (i : Nat),
      frameMultiFactory buf false = .ok (frames, i) →
        AccountsFor buf frames i := by
  intro always
  have accounts := always [0, 0, 0, 2, 0, 0, 0, 0, 1] [] 0 (by decide +kernel)
  have incomplete := (incomplete_iff.mp (accounts.2.mp (by decide))).2
  exact absurd incomplete (by decide)

end DpktNg.Http2
