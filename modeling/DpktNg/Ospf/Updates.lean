/-
Which link state updates `OSPFv2LSU` and `OSPFv3LSU` of dpkt/ospf.py parse.  The
length fields alone say where the LSAs are.  An LSA that its own class refuses
with an error of the library becomes an `LSAv2Header` or `LSAv3Header`; an index
behind its end is an `IndexError`, which is not caught and ends the whole parse.
-/

import DpktNg.Ospf.Version2
import DpktNg.Ospf.Version3
import DpktNg.Python.FixedReads
import DpktNg.Python.LoopChecks

namespace DpktNg.Ospf

open Library

/-! ### What the classes read -/

def Any {α : Type} (_value : α) : Prop := True

theorem follows_metric {α : Type} {data : Bytes} {start : Nat}
    {reads : List FixedRead} {good : α → Prop} {rest : Nat → Except PyError α}
    (follows : ∀ value, Follows data reads good (rest value)) :
    Follows data (.number start (start + 3) :: reads) good
      (unpackMetric (cut data start (start + 3)) >>= rest) := by
  unfold Follows
  rw [firstFailure_cons, FixedRead.failure]
  by_cases inside : start + 3 ≤ data.length
  · have length := @cut_length_of_le data start (start + 3) inside
    have unpacked : unpackMetric (cut data start (start + 3)) =
        .ok (beNat (cut data start (start + 3) ++ [0]) / 256) := by
      unfold unpackMetric
      rw [unpackBe_eq_ok.mpr ⟨?_, rfl⟩, ok_bind]
      rw [List.length_append, length, List.length_singleton]
      omega
    rw [if_pos inside, unpacked, ok_bind, Option.none_or]
    exact follows _
  · have short : (cut data start (start + 3) ++ [0]).length ≠ 4 := by
      unfold cut
      rw [List.length_append, List.length_take, List.length_drop,
        List.length_singleton]
      omega
    have refused : unpackMetric (cut data start (start + 3)) =
        .error .structError := by
      unfold unpackMetric
      rw [show unpackBe 4 _ = .error .structError from if_neg short]
      rfl
    rw [if_neg inside, refused]
    rfl

theorem follows_struct {α : Type} {data : Bytes} {reads : List FixedRead}
    {good : α → Prop} {widths : List Nat} {size : Nat}
    (sized : widths.sum = size) {rest : List Nat → Except PyError α}
    (follows : ∀ values, Follows data reads good (rest values)) :
    Follows data (.number 0 size :: reads) good
      (ByteOrder.big.unpack widths (data.take size) >>= rest) := by
  unfold Follows ByteOrder.unpack
  rw [firstFailure_cons, FixedRead.failure, List.length_take]
  by_cases inside : size ≤ data.length
  · rw [if_pos inside, if_pos (by omega), ok_bind, Option.none_or]
    exact follows _
  · rw [if_neg inside, if_neg (by omega)]
    rfl

theorem follows_wrap {α β : Type} {data : Bytes} {reads : List FixedRead}
    {result : Except PyError α} (follows : Follows data reads Any result)
    (make : α → β) :
    Follows data reads Any (do .ok (make (← result))) := by
  unfold Follows at follows ⊢
  split
  · rename_i problem failed
    rw [failed] at follows
    rw [show result = .error problem from follows]
    rfl
  · rename_i nothing
    rw [nothing] at follows
    obtain ⟨value, read, _any⟩ := follows
    rw [read]
    exact ⟨make value, rfl, trivial⟩

namespace V2

/-- What the class of a type reads behind the header. -/
def lsaReads : Nat → List FixedRead
  | 1 => [.number 0 4]
  | 2 => [.number 0 4]
  | 3 => [.number 0 4, .number 4 7]
  | 4 => [.number 0 4, .number 4 7]
  | 5 => [.number 0 4, .byte 4, .number 5 8]
  | _ => []

theorem router_follows (data : Bytes) :
    Follows data [.number 0 4] Any (LSARouter.unpack data) := by
  refine follows_struct (by decide) fun _start => ?_
  exact .done trivial

theorem network_follows (data : Bytes) :
    Follows data [.number 0 4] Any (LSANetwork.unpack data) := by
  refine .number (by decide) (by decide) fun _mask => ?_
  exact .done trivial

theorem summaryIP_follows (data : Bytes) :
    Follows data [.number 0 4, .number 4 7] Any (LSASummaryIP.unpack data) := by
  refine .number (by decide) (by decide) fun _mask => ?_
  refine follows_metric fun _metric => ?_
  exact .done trivial

theorem asExternal_follows (data : Bytes) :
    Follows data [.number 0 4, .byte 4, .number 5 8] Any
      (LSAASExternal.unpack data) := by
  refine .number (by decide) (by decide) fun _mask => ?_
  refine .byte 4 fun _flags => ?_
  refine follows_metric fun _metric => ?_
  split
  · refine .inside rfl (by omega) fun _forwarding => ?_
    refine .inside rfl (by omega) fun _tag => ?_
    exact .done trivial
  · exact .done trivial

theorem lsaClass_follows (type : Nat) (data : Bytes) :
    Follows data (lsaReads type) Any ((lsaClass type).unpackBody data) := by
  match type with
  | 1 => exact follows_wrap (router_follows data) _
  | 2 => exact follows_wrap (network_follows data) _
  | 3 => exact follows_wrap (summaryIP_follows data) _
  | 4 => exact follows_wrap (summaryIP_follows data) _
  | 5 => exact follows_wrap (asExternal_follows data) _
  | 0 => exact .done trivial
  | later + 6 => exact .done trivial

end V2

namespace V3

def lsaReads : Nat → List FixedRead
  | 0x2001 => [.byte 0]
  | 0x2002 => []
  | 0x2003 => [.number 0 3, .byte 3]
  | 0x2004 => [.byte 3, .number 4 7, .number 7 11]
  | 0x4005 => [.byte 0, .number 1 4, .byte 4]
  | 0x2007 => [.byte 0, .number 1 4, .byte 4]
  | 0x0008 => [.byte 0, .byte 4]
  | 0x2009 => [.number 0 2, .number 2 4, .number 4 8, .number 8 12]
  | _ => []

theorem router_follows (data : Bytes) :
    Follows data [.byte 0] Any (LSARouterV3.unpack data) := by
  refine .byte 0 fun _flags => ?_
  exact .done trivial

theorem interAreaPrefix_follows (data : Bytes) :
    Follows data [.number 0 3, .byte 3] Any
      (LSAInterAreaPrefix.unpack data) := by
  refine follows_metric fun _metric => ?_
  refine .byte 3 fun _prefixLength => ?_
  exact .done trivial

theorem interAreaRouter_follows (data : Bytes) :
    Follows data [.byte 3, .number 4 7, .number 7 11] Any
      (LSAInterAreaRouter.unpack data) := by
  refine .byte 3 fun _rsv => ?_
  refine follows_metric fun _metric => ?_
  refine .number (by decide) (by decide) fun _destRouter => ?_
  exact .done trivial

theorem asExternal_follows (data : Bytes) :
    Follows data [.byte 0, .number 1 4, .byte 4] Any
      (LSAASExternalV3.unpack data) := by
  refine .byte 0 fun _flags => ?_
  refine follows_metric fun _metric => ?_
  refine .byte 4 fun prefixLength => ?_
  dsimp only
  split
  · refine .inside rfl (by omega) fun _forwarding => ?_
    refine .inside (by omega) (by omega) fun _tag => ?_
    exact .done trivial
  · exact .done trivial

theorem link_follows (data : Bytes) :
    Follows data [.byte 0, .byte 4] Any (LSALink.unpack data) := by
  refine .byte 0 fun _routerPriority => ?_
  refine .byte 4 fun _prefixLength => ?_
  exact .done trivial

theorem intraAreaPrefix_follows (data : Bytes) :
    Follows data [.number 0 2, .number 2 4, .number 4 8, .number 8 12] Any
      (LSAIntraAreaPrefix.unpack data) := by
  refine .number (by decide) (by decide) fun _lsaCount => ?_
  refine .number (by decide) (by decide) fun _refType => ?_
  refine .number (by decide) (by decide) fun _refId => ?_
  refine .number (by decide) (by decide) fun _refAdvRouter => ?_
  exact .done trivial

theorem lsaClass_follows (type : Nat) (data : Bytes) :
    Follows data (lsaReads type) Any ((lsaClass type).unpackBody data) := by
  unfold lsaReads
  split
  · exact follows_wrap (router_follows data) _
  · exact follows_wrap (.done trivial) _
  · exact follows_wrap (interAreaPrefix_follows data) _
  · exact follows_wrap (interAreaRouter_follows data) _
  · exact follows_wrap (asExternal_follows data) _
  · exact follows_wrap (asExternal_follows data) _
  · exact follows_wrap (link_follows data) _
  · exact follows_wrap (intraAreaPrefix_follows data) _
  · have unregistered : lsaSw.lookup type = none := by
      rw [List.lookup_eq_none_iff]
      simp only [lsaSw, List.forall_mem_cons, bne_iff_ne]
      grind
    unfold lsaClass
    rw [unregistered]
    exact .done trivial

end V3

/-! ### One LSA -/

/-- The numbers of bytes behind the header at which an index misses. -/
def V2.fatal : Nat → List Nat
  | 5 => [4]
  | _ => []

def V3.fatal : Nat → List Nat
  | 0x2001 => [0]
  | 0x2003 => [3]
  | 0x2004 => [0, 1, 2, 3]
  | 0x4005 => [0, 4]
  | 0x2007 => [0, 4]
  | 0x0008 => [0, 1, 2, 3, 4]
  | _ => []

theorem V2.fatal_iff (type : Nat) (data : Bytes) :
    firstFailure data (lsaReads type) = some .indexError ↔
      data.length ∈ fatal type := by
  unfold lsaReads fatal
  split <;>
    simp only [indexError_byte, indexError_number, firstFailure_nil,
      List.mem_cons, List.not_mem_nil, reduceCtorEq, imp_false, and_false,
      or_false]
  omega

theorem V3.fatal_iff (type : Nat) (data : Bytes) :
    firstFailure data (lsaReads type) = some .indexError ↔
      data.length ∈ fatal type := by
  unfold lsaReads fatal
  split <;>
    simp only [indexError_byte, indexError_number, firstFailure_nil,
      List.mem_cons, List.not_mem_nil, reduceCtorEq, imp_false, and_false,
      or_false] <;>
    omega

section Construct

variable {Header Body : Type} {format : RecordFormat Header}
  {unpackBody : Bytes → Except PyError Body} {reads : List FixedRead}
  {lsaBuf : Bytes}

theorem construct_short (size : format.size = 20) (className : String)
    (unpackBody : Bytes → Except PyError Body) (short : lsaBuf.length < 20) :
    packetInit className (some format.size) (unpackLsa format unpackBody)
      lsaBuf = .error (.tooShort lsaBuf.length 20) := by
  rw [size]
  refine packetInit_short ?_ short
  unfold unpackLsa takeHeader
  rw [if_pos (by omega)]
  rfl

/-- A class on a whole header: an index misses, or the result is an LSA or an
error that the update catches. -/
theorem construct_whole (size : format.size = 20) (className : String)
    (follows : Follows (lsaBuf.drop 20) reads Any
      (unpackBody (lsaBuf.drop 20))) (long : 20 ≤ lsaBuf.length) :
    let parsed := packetInit className (some format.size)
      (unpackLsa format unpackBody) lsaBuf
    if firstFailure (lsaBuf.drop 20) reads = some .indexError then
      parsed = .error .indexError
    else (∃ lsa, parsed = .ok lsa) ∨
      ∃ problem, parsed = .error problem ∧ HeaderError problem := by
  intro parsed
  have taken : takeHeader 20 lsaBuf =
      .ok (lsaBuf.take 20, lsaBuf.drop 20) := if_neg (by omega)
  have unpacked : unpackLsa format unpackBody lsaBuf = (do
      let body ← unpackBody (lsaBuf.drop 20)
      .ok { header := format.read .big (lsaBuf.take 20), body }) := by
    unfold unpackLsa
    rw [size, taken, ok_bind]
  unfold Follows at follows
  cases failed : firstFailure (lsaBuf.drop 20) reads with
  | none =>
      rw [failed] at follows
      obtain ⟨body, read, _any⟩ := follows
      rw [read, ok_bind] at unpacked
      rw [if_neg nofun]
      exact Or.inl ⟨_, packetInit_eq_ok.mpr unpacked⟩
  | some problem =>
      rw [failed] at follows
      rw [show unpackBody _ = .error problem from follows] at unpacked
      rcases firstFailure_eq_some failed with index | struct
      · rw [index] at unpacked ⊢
        rw [if_pos rfl]
        exact packetInit_passes unpacked PyError.noConfusion
      · rw [struct] at unpacked ⊢
        rw [if_neg nofun]
        refine Or.inr ⟨.invalid className lsaBuf, ?_, Or.inr trivial⟩
        change packetInit className (some format.size) _ lsaBuf = _
        unfold packetInit
        rw [unpacked]
        exact if_neg (by omega)

theorem construct_kept (size : format.size = 20) (className : String)
    (make : Bytes → Body) (long : 20 ≤ lsaBuf.length) :
    packetInit className (some format.size)
      (unpackLsa format fun data => .ok (make data)) lsaBuf =
        .ok
          { header := format.read .big (lsaBuf.take 20)
            body := make (lsaBuf.drop 20) } := by
  have taken : takeHeader 20 lsaBuf =
      .ok (lsaBuf.take 20, lsaBuf.drop 20) := if_neg (by omega)
  rw [packetInit_eq_ok]
  unfold unpackLsa
  rw [size, taken, ok_bind]
  rfl

end Construct

/-- The classes of a version, by the numbers of bytes that are fatal to them. -/
structure Parses {α : Type} (classes : LsaClasses α) (fatal : Nat → List Nat) :
    Prop where
  short : ∀ type lsaBuf, lsaBuf.length < 20 →
    classes.construct type lsaBuf = .error (.tooShort lsaBuf.length 20)
  header_short : ∀ lsaBuf, lsaBuf.length < 20 →
    classes.constructHeader lsaBuf = .error (.tooShort lsaBuf.length 20)
  whole : ∀ type lsaBuf, 20 ≤ lsaBuf.length →
    if lsaBuf.length - 20 ∈ fatal type then
      classes.construct type lsaBuf = .error .indexError
    else (∃ lsa, classes.construct type lsaBuf = .ok lsa) ∨
      ∃ problem, classes.construct type lsaBuf = .error problem ∧
        HeaderError problem
  header_whole : ∀ lsaBuf, 20 ≤ lsaBuf.length →
    ∃ lsa, classes.constructHeader lsaBuf = .ok lsa

theorem V2.header_size : V2.LSAv2Header.format.size = 20 := rfl

theorem V2.parses : Parses lsaClasses fatal where
  short type lsaBuf short := construct_short header_size _ _ short
  header_short lsaBuf short := construct_short header_size _ _ short
  whole type lsaBuf long := by
    have whole := construct_whole header_size (lsaClass type).name
      (lsaClass_follows type (lsaBuf.drop 20)) long
    simp only [fatal_iff, List.length_drop] at whole
    exact whole
  header_whole _lsaBuf long :=
    ⟨_, construct_kept header_size "LSAv2Header" LsaBody.header long⟩

theorem V3.header_size : V3.LSAv3Header.format.size = 20 := rfl

theorem V3.parses : Parses lsaClasses fatal where
  short type lsaBuf short := construct_short header_size _ _ short
  header_short lsaBuf short := construct_short header_size _ _ short
  whole type lsaBuf long := by
    have whole := construct_whole header_size (lsaClass type).name
      (lsaClass_follows type (lsaBuf.drop 20)) long
    simp only [fatal_iff, List.length_drop] at whole
    exact whole
  header_whole _lsaBuf long :=
    ⟨_, construct_kept header_size "LSAv3Header" LsaBody.header long⟩

/-! ### The loop -/

namespace LinkStateUpdate

/-- The LSAs that the loop takes, as the length fields say. -/
def lsaBufs : Nat → Bytes → List Bytes
  | 0, _ => []
  | count + 1, buf =>
      if buf.length < 20 then []
      else
        let lsaLen := beNat (cut buf 18 20)
        buf.take lsaLen :: lsaBufs count (buf.drop lsaLen)

variable {α : Type} (typeStop : Nat) (fatal : Nat → List Nat)

/-- What goes wrong with one LSA. -/
def lsaFailure (lsaBuf : Bytes) : Option PyError :=
  if lsaBuf.length < typeStop then some .structError
  else if lsaBuf.length < 20 then some (.tooShort lsaBuf.length 20)
  else if lsaBuf.length - 20 ∈ fatal (beNat (cut lsaBuf 2 typeStop)) then
    some .indexError
  else none

/-- What leaves the constructor of a class without a header. -/
def withoutHeader : PyError → PyError
  | .structError => .attributeError
  | problem => problem

/-- What goes wrong first with an update. -/
def updateFailure (buf : Bytes) : Option PyError :=
  if buf.length < 4 then some .attributeError
  else
    ((lsaBufs (beNat (buf.take 4)) (buf.drop 4)).findSome?
      (lsaFailure typeStop fatal)).map withoutHeader

variable {classes : LsaClasses α} {fatal : Nat → List Nat}

theorem parseLsa_outcome (parses : Parses classes fatal)
    (behind : 2 < classes.typeStop) (early : classes.typeStop ≤ 20)
    (lsaBuf : Bytes) :
    match lsaFailure classes.typeStop fatal lsaBuf with
    | some problem => parseLsa classes lsaBuf = .error problem
    | none => ∃ lsa, parseLsa classes lsaBuf = .ok lsa := by
  unfold lsaFailure parseLsa
  by_cases noType : lsaBuf.length < classes.typeStop
  · have length : (cut lsaBuf 2 classes.typeStop).length ≠
        classes.typeStop - 2 := by
      unfold cut
      rw [List.length_take, List.length_drop]
      omega
    rw [if_pos noType, show unpackBe _ _ = .error .structError from
      if_neg length]
    rfl
  · have length := @cut_length_of_le lsaBuf 2 classes.typeStop (by omega)
    rw [if_neg noType, unpackBe_eq_ok.mpr ⟨length, rfl⟩, ok_bind]
    generalize beNat (cut lsaBuf 2 classes.typeStop) = type
    by_cases short : lsaBuf.length < 20
    · have caught : HeaderError (.tooShort lsaBuf.length 20) :=
        Or.inr trivial
      rw [if_pos short, parses.short type lsaBuf short]
      dsimp only
      rw [if_pos caught]
      exact parses.header_short lsaBuf short
    · have long : 20 ≤ lsaBuf.length := by omega
      have whole := parses.whole type lsaBuf long
      rw [if_neg short]
      by_cases crash : lsaBuf.length - 20 ∈ fatal type
      · rw [if_pos crash] at whole ⊢
        rw [whole]
        exact if_neg (by decide)
      · rw [if_neg crash] at whole ⊢
        rcases whole with ⟨lsa, parsed⟩ | ⟨problem, refused, caught⟩
        · rw [parsed]
          exact ⟨lsa, rfl⟩
        · rw [refused]
          dsimp only
          rw [if_pos caught]
          exact parses.header_whole lsaBuf long

theorem parseLsas_outcome (parses : Parses classes fatal)
    (behind : 2 < classes.typeStop) (early : classes.typeStop ≤ 20)
    (count : Nat) (buf : Bytes) :
    match (lsaBufs count buf).findSome?
      (lsaFailure classes.typeStop fatal) with
    | some problem => parseLsas classes count buf = .error problem
    | none => ∃ lsas, parseLsas classes count buf = .ok lsas := by
  induction count generalizing buf with
  | zero => exact ⟨[], rfl⟩
  | succ count ih =>
      unfold lsaBufs parseLsas
      by_cases short : buf.length < 20
      · rw [if_pos short, if_pos short]
        exact ⟨[], rfl⟩
      · have length := @cut_length_of_le buf 18 20 (by omega)
        rw [if_neg short, if_neg short, unpackBe_eq_ok.mpr ⟨length, rfl⟩,
          ok_bind]
        generalize beNat (cut buf 18 20) = lsaLen
        have here := parseLsa_outcome parses behind early (buf.take lsaLen)
        dsimp only
        rw [List.findSome?_cons]
        cases wrong : lsaFailure classes.typeStop fatal (buf.take lsaLen) with
        | some problem =>
            rw [wrong] at here
            rw [show parseLsa classes _ = .error problem from here]
            rfl
        | none =>
            rw [wrong] at here
            obtain ⟨lsa, parsed⟩ := here
            rw [parsed, ok_bind]
            have later := ih (buf.drop lsaLen)
            dsimp only
            split
            · rename_i problem first
              rw [first] at later
              rw [show parseLsas classes _ _ = .error problem from later]
              rfl
            · rename_i nothing
              rw [nothing] at later
              obtain ⟨lsas, others⟩ := later
              rw [others]
              exact ⟨lsa :: lsas, rfl⟩

theorem withoutHeader_outcome {className : String}
    {unpack : Bytes → Except PyError α} {buf : Bytes} {problem : PyError}
    (raised : unpack buf = .error problem) :
    packetInit className none unpack buf = .error (withoutHeader problem) := by
  by_cases struct : problem = .structError
  · rw [struct] at raised ⊢
    exact packetInit_noHeader raised
  · have same : withoutHeader problem = problem := by
      unfold withoutHeader
      split
      · exact absurd rfl struct
      · rfl
    rw [same]
    exact packetInit_passes raised struct

/-- An update is parsed unless one of its LSAs is too short for its type or for
a header, or an index misses in it. -/
theorem parse_outcome (parses : Parses classes fatal)
    (behind : 2 < classes.typeStop) (early : classes.typeStop ≤ 20)
    (className : String) (buf : Bytes) :
    match updateFailure classes.typeStop fatal buf with
    | some problem => parse classes className buf = .error problem
    | none => ∃ update, parse classes className buf = .ok update := by
  unfold updateFailure parse
  by_cases short : buf.length < 4
  · have length : (buf.take 4).length ≠ 4 := by
      rw [List.length_take]
      omega
    rw [if_pos short]
    refine packetInit_noHeader ?_
    unfold unpack
    rw [show unpackBe 4 _ = .error .structError from if_neg length]
    rfl
  · have length : (buf.take 4).length = 4 := by
      rw [List.length_take]
      omega
    have unpacked : unpack classes buf = (do
        let lsas ← parseLsas classes (beNat (buf.take 4)) (buf.drop 4)
        .ok { lsaCount := beNat (buf.take 4), lsas }) := by
      unfold unpack
      rw [unpackBe_eq_ok.mpr ⟨length, rfl⟩, ok_bind]
    have loop := parseLsas_outcome parses behind early (beNat (buf.take 4))
      (buf.drop 4)
    rw [if_neg short]
    cases wrong : (lsaBufs (beNat (buf.take 4)) (buf.drop 4)).findSome?
        (lsaFailure classes.typeStop fatal) with
    | some problem =>
        rw [wrong] at loop
        rw [show parseLsas classes _ _ = .error problem from loop] at unpacked
        exact withoutHeader_outcome unpacked
    | none =>
        rw [wrong] at loop
        obtain ⟨lsas, parsed⟩ := loop
        rw [parsed, ok_bind] at unpacked
        exact ⟨_, packetInit_eq_ok.mpr unpacked⟩

end LinkStateUpdate

end DpktNg.Ospf
