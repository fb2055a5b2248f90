/-
The information elements of dpkt/ieee80211_ie.py, class by class: what the
`unpack` of each class takes from the `info` of its element.
-/

import DpktNg.Library.Walks
import DpktNg.Python.ByteOrder

namespace DpktNg.Ieee80211

open Library

structure Triplet where
  channel : Nat
  channels : Nat
  power : Int
deriving DecidableEq, Repr

structure WmmParam where
  aci : Nat
  acm : Nat
  txop : Nat
deriving DecidableEq, Repr

inductive IeValue where
  | int (value : Nat)
  | bytes (value : Bytes)
  | pair (first second : Nat)
  | suites (suites : List Bytes)
  | triplets (triplets : List Triplet)
  | params (params : List WmmParam)
deriving DecidableEq, Repr

/-- The attributes that `unpack` sets, in the order in which it sets them. -/
abbrev IeAttributes := List (String × IeValue)

/-- `struct.unpack` of the little-endian integer at a place of `info`. -/
def littleAt (width : Nat) (info : Bytes) (start : Nat) : Except PyError Nat :=
  ByteOrder.little.unpackInt width (cut info start (start + width))

/-! ### Attributes behind a check of the length -/

/-- Where an attribute comes from. -/
inductive IeRead where
  | byte (index : Nat)
  | slice (start stop : Nat)
  | rest (start : Nat)
  | little (width start : Nat)

namespace IeRead

def read (info : Bytes) : IeRead → Except PyError IeValue
  | .byte index => do .ok (.int (← byteAt info index))
  | .slice start stop => .ok (.bytes (cut info start stop))
  | .rest start => .ok (.bytes (info.drop start))
  | .little width start => do .ok (.int (← littleAt width info start))

/-- The length of `info` from which on nothing is raised. -/
def needs : IeRead → Nat
  | .byte index => index + 1
  | .slice _ _ => 0
  | .rest _ => 0
  | .little width start => start + width

end IeRead

/-- `if len(self.info) >= least:` with the attributes that are set then. -/
structure IeGuard where
  least : Nat
  fields : List (String × IeRead)

def readFields (info : Bytes) :
    List (String × IeRead) → Except PyError IeAttributes
  | [] => .ok []
  | (name, source) :: rest => do
      let value ← source.read info
      let others ← readFields info rest
      .ok ((name, value) :: others)

def IeGuard.unpack (check : IeGuard) (info : Bytes) :
    Except PyError IeAttributes :=
  if check.least ≤ info.length then readFields info check.fields else .ok []

def unpackGuards (info : Bytes) : List IeGuard → Except PyError IeAttributes
  | [] => .ok []
  | check :: rest => do
      let attributes ← check.unpack info
      let others ← unpackGuards info rest
      .ok (attributes ++ others)

/-- Each check is enough for what stands behind it. -/
def guardsSuffice (guards : List IeGuard) : Bool :=
  guards.all fun check =>
    check.fields.all fun field => field.2.needs ≤ check.least

/-- `if len(self.info) >= 1: self.ext_id = self.info[0]` -/
def extIdGuard : IeGuard := { least := 1, fields := [("ext_id", .byte 0)] }

def heCapability : List IeGuard :=
  [extIdGuard,
    { least := 7, fields := [("mac_info", .slice 1 7)] },
    { least := 18, fields := [("phy_info", .slice 7 18)] }]

def heOperation : List IeGuard :=
  [extIdGuard,
    { least := 7
      fields := [("params", .slice 1 4), ("bss_color", .byte 4),
        ("basic_mcs", .little 2 5)] }]

def heSpatialReuse : List IeGuard :=
  [extIdGuard, { least := 0, fields := [("srg_info", .rest 1)] }]

def heBssColorChange : List IeGuard :=
  [{ least := 3
     fields := [("ext_id", .byte 0), ("countdown", .byte 1),
       ("new_color", .byte 2)] }]

def heTwt : List IeGuard :=
  [{ least := 3
     fields := [("ext_id", .byte 0), ("request", .byte 1),
       ("broadcast", .byte 2)] }]

def heMcsNss : List IeGuard :=
  [extIdGuard, { least := 0, fields := [("mcs_map", .rest 1)] }]

def ehtCapability : List IeGuard :=
  [extIdGuard,
    { least := 3, fields := [("mac_cap", .slice 1 3)] },
    { least := 12, fields := [("phy_cap", .slice 3 12)] },
    { least := 0, fields := [("eht_mcs_nss", .rest 12)] }]

def ehtOperation : List IeGuard :=
  [extIdGuard,
    { least := 4
      fields := [("params", .byte 1), ("basic_mcs", .little 2 2)] }]

def ehtTidLink : List IeGuard :=
  [extIdGuard, { least := 0, fields := [("mapping", .rest 1)] }]

def htCapability : List IeGuard :=
  [{ least := 26
     fields := [("ht_cap_info", .little 2 0), ("ampdu_params", .byte 2),
       ("mcs_set", .slice 3 19), ("ht_ext_cap", .little 2 19),
       ("beamforming", .little 4 21), ("asel", .byte 25)] }]

def htInfo : List IeGuard :=
  [{ least := 22
     fields := [("primary_ch", .byte 0), ("ht_info_config", .little 2 1),
       ("basic_mcs", .slice 6 22)] }]

def vhtOperation : List IeGuard :=
  [{ least := 5
     fields := [("ch_width", .byte 0), ("ch1", .byte 1), ("ch2", .byte 2),
       ("basic_mcs", .little 2 3)] }]

def erp : List IeGuard := [{ least := 1, fields := [("flags", .byte 0)] }]

def extCap : List IeGuard := [{ least := 0, fields := [("flags", .rest 0)] }]

/-! ### Classes that do more -/

def heBandCapability (info : Bytes) : Except PyError IeAttributes :=
  if 6 ≤ info.length then do
    let minMcs ← byteAt info 1
    let word ← littleAt 4 info 2
    .ok [("min_mcs", .int minMcs), ("max_ampdu", .int (word >>> 2))]
  else .ok []

def unpackHe6GhzBand (info : Bytes) : Except PyError IeAttributes := do
  let extId ← extIdGuard.unpack info
  let capability ← heBandCapability info
  let txPower := if info.length > 6 then info.drop 6 else []
  .ok (extId ++ capability ++ [("tx_power", .bytes txPower)])

def mlControl (info : Bytes) : Except PyError IeAttributes :=
  if 3 ≤ info.length then do
    let control ← littleAt 2 info 1
    .ok [("ml_control", .int control),
      ("type", .int ((control >>> 1) &&& 0x7)),
      ("presence", .int ((control >>> 4) &&& 0x1))]
  else .ok []

def unpackMlElement (info : Bytes) : Except PyError IeAttributes := do
  let extId ← extIdGuard.unpack info
  let control ← mlControl info
  let commonInfo := if info.length > 3 then info.drop 3 else []
  .ok (extId ++ control ++ [("common_info", .bytes commonInfo)])

def unpackVhtCapability (info : Bytes) : Except PyError IeAttributes :=
  if 12 ≤ info.length then do
    let vhtCapInfo ← littleAt 4 info 0
    -- `struct.unpack('<HH', self.info[4:8])`
    let rxMap ← littleAt 2 info 4
    let txMap ← littleAt 2 info 6
    .ok [("vht_cap_info", .int vhtCapInfo), ("mcs_map", .pair rxMap txMap),
      ("rx_mcs", .int rxMap), ("tx_mcs", .int txMap)]
  else .ok []

/-- `for _ in range(count): if off + 4 <= len(self.info): ...`, with the offset
behind the suites. -/
def takeSuites (info : Bytes) : Nat → Nat → List Bytes × Nat
  | 0, off => ([], off)
  | count + 1, off =>
      if off + 4 ≤ info.length then
        let (suites, stop) := takeSuites info count (off + 4)
        (cut info off (off + 4) :: suites, stop)
      else takeSuites info count off

/-- `if off + 2 <= len(self.info):` with the number there and the offset behind
it; where it is missing the number stays 0. -/
def optionalCount (info : Bytes) (off : Nat) : Except PyError (Nat × Nat) :=
  if off + 2 ≤ info.length then do .ok (← littleAt 2 info off, off + 2)
  else .ok (0, off)

def unpackRsn (info : Bytes) : Except PyError IeAttributes :=
  if 8 ≤ info.length then do
    let version ← littleAt 2 info 0
    let groupSuite := cut info 2 6
    let pairwiseCount ← littleAt 2 info 6
    let pairwise := takeSuites info pairwiseCount 8
    let akmCount ← optionalCount info pairwise.2
    let akm := takeSuites info akmCount.1 akmCount.2
    let caps ← optionalCount info akm.2
    .ok [("version", .int version), ("group_suite", .bytes groupSuite),
      ("pairwise_count", .int pairwiseCount), ("pairwise", .suites pairwise.1),
      ("akm_count", .int akmCount.1), ("akm", .suites akm.1),
      ("caps", .int caps.1)]
  else .ok []

def readTriplet (info : Bytes) : Except PyError (Triplet × Nat) := do
  let pwr ← byteAt info 2
  let power : Int := if pwr > 127 then pwr - 256 else pwr
  let channel ← byteAt info 0
  let channels ← byteAt info 1
  .ok ({ channel, channels, power }, 3)

def tripletReader : ItemReader PyError UInt8 Triplet where
  read := readTriplet
  positive := by
    intro info item size read
    obtain ⟨_pwr, _read, rest⟩ := bind_eq_ok.mp read
    obtain ⟨_channel, _read, rest⟩ := bind_eq_ok.mp rest
    obtain ⟨_channels, _read, done⟩ := bind_eq_ok.mp rest
    rw [Except.ok.injEq, Prod.mk.injEq] at done
    rw [← done.2]
    exact Nat.succ_pos 2

def unpackCountry (info : Bytes) : Except PyError IeAttributes := do
  let countryCode := if 3 ≤ info.length then info.take 3 else []
  let triplets ← tripletReader.strides 3 info 3
  .ok [("country_code", .bytes countryCode), ("triplets", .triplets triplets)]

def readWmmParam (info : Bytes) : Except PyError (WmmParam × Nat) := do
  let first ← byteAt info 0
  let param ← littleAt 2 info 2
  .ok ({
    aci := (first >>> 5) &&& 3
    acm := (first >>> 4) &&& 1
    txop := param }, 4)

def wmmParamReader : ItemReader PyError UInt8 WmmParam where
  read := readWmmParam
  positive := by
    intro info item size read
    obtain ⟨_first, _read, rest⟩ := bind_eq_ok.mp read
    obtain ⟨_param, _read, done⟩ := bind_eq_ok.mp rest
    rw [Except.ok.injEq, Prod.mk.injEq] at done
    rw [← done.2]
    exact Nat.succ_pos 3

/-- `b'\x00\x50\xf2\x02'` -/
def wmmOui : Bytes := [0x00, 0x50, 0xf2, 0x02]

def unpackWmm (info : Bytes) : Except PyError IeAttributes :=
  if 7 ≤ info.length ∧ cut info 0 4 = wmmOui then do
    let ouiType ← byteAt info 3
    let subtype ← byteAt info 4
    let version ← byteAt info 5
    let qosInfo ← byteAt info 6
    let params ← wmmParamReader.strides 4 info 7
    .ok [("oui", .bytes (cut info 0 3)), ("oui_type", .int ouiType),
      ("subtype", .int subtype), ("version", .int version),
      ("qos_info", .int qosInfo), ("params", .params params)]
  else .ok []

/-! ### The classes -/

inductive IeClass where
  | base
  | heCapability
  | heOperation
  | heSpatialReuse
  | heBssColorChange
  | heTwt
  | he6GhzBand
  | heMcsNss
  | ehtCapability
  | ehtOperation
  | ehtTidLink
  | mlElement
  | htCapability
  | htInfo
  | vhtCapability
  | vhtOperation
  | erp
  | rsn
  | extCap
  | country
  | wmm
deriving DecidableEq, Repr

namespace IeClass

def name : IeClass → String
  | .base => "IEEE80211IE"
  | .heCapability => "IEEE80211IEHECapability"
  | .heOperation => "IEEE80211IEHEOperation"
  | .heSpatialReuse => "IEEE80211IEHESpatialReuse"
  | .heBssColorChange => "IEEE80211IEHEBSSColorChange"
  | .heTwt => "IEEE80211IEHETWT"
  | .he6GhzBand => "IEEE80211IEHE6GHzBand"
  | .heMcsNss => "IEEE80211IEHEMCSNSS"
  | .ehtCapability => "IEEE80211IEEHTCapability"
  | .ehtOperation => "IEEE80211IEEHTOperation"
  | .ehtTidLink => "IEEE80211IEEHTTIDLink"
  | .mlElement => "IEEE80211IEMLElement"
  | .htCapability => "IEEE80211IEHTCapability"
  | .htInfo => "IEEE80211IEHTInfo"
  | .vhtCapability => "IEEE80211IEVHTCapability"
  | .vhtOperation => "IEEE80211IEVHTOperation"
  | .erp => "IEEE80211IEERP"
  | .rsn => "IEEE80211IERSN"
  | .extCap => "IEEE80211IEExtCap"
  | .country => "IEEE80211IECountry"
  | .wmm => "IEEE80211IEWMM"

/-- The attributes that the class sets behind those of `IEEE80211IE`. -/
def unpackInfo (cls : IeClass) (info : Bytes) : Except PyError IeAttributes :=
  match cls with
  | .base => .ok []
  | .heCapability => unpackGuards info Ieee80211.heCapability
  | .heOperation => unpackGuards info Ieee80211.heOperation
  | .heSpatialReuse => unpackGuards info Ieee80211.heSpatialReuse
  | .heBssColorChange => unpackGuards info Ieee80211.heBssColorChange
  | .heTwt => unpackGuards info Ieee80211.heTwt
  | .he6GhzBand => unpackHe6GhzBand info
  | .heMcsNss => unpackGuards info Ieee80211.heMcsNss
  | .ehtCapability => unpackGuards info Ieee80211.ehtCapability
  | .ehtOperation => unpackGuards info Ieee80211.ehtOperation
  | .ehtTidLink => unpackGuards info Ieee80211.ehtTidLink
  | .mlElement => unpackMlElement info
  | .htCapability => unpackGuards info Ieee80211.htCapability
  | .htInfo => unpackGuards info Ieee80211.htInfo
  | .vhtCapability => unpackVhtCapability info
  | .vhtOperation => unpackGuards info Ieee80211.vhtOperation
  | .erp => unpackGuards info Ieee80211.erp
  | .rsn => unpackRsn info
  | .extCap => unpackGuards info Ieee80211.extCap
  | .country => unpackCountry info
  | .wmm => unpackWmm info

end IeClass

/-! ### Nothing is raised -/

/-- The computation returns a value. -/
def Returns {α : Type} (result : Except PyError α) : Prop :=
  ∃ value, result = .ok value

section Returns

variable {α β : Type} {info : Bytes}

theorem returns_ok (value : α) : Returns (.ok value) := ⟨value, rfl⟩

theorem Returns.bind {first : Except PyError α}
    {rest : α → Except PyError β} (returns : Returns first)
    (behind : ∀ value, Returns (rest value)) : Returns (first >>= rest) := by
  obtain ⟨value, rfl⟩ := returns
  exact behind value

theorem returns_ite {condition : Prop} [Decidable condition]
    {yes no : Except PyError α} (whenTrue : condition → Returns yes)
    (whenFalse : ¬condition → Returns no) :
    Returns (if condition then yes else no) := by
  split
  · rename_i holds
    exact whenTrue holds
  · rename_i fails
    exact whenFalse fails

theorem byteAt_returns {index : Nat} (inside : index < info.length) :
    Returns (byteAt info index) :=
  ⟨_, byteAt_inside inside⟩

theorem littleAt_returns {width start : Nat}
    (inside : start + width ≤ info.length) :
    Returns (littleAt width info start) := by
  have length : (cut info start (start + width)).length = width := by
    rw [cut_length_of_le inside, Nat.add_sub_cancel_left]
  exact ⟨_, if_pos length⟩

theorem IeRead.read_returns {source : IeRead}
    (enough : source.needs ≤ info.length) : Returns (source.read info) := by
  cases source with
  | byte index => exact (byteAt_returns enough).bind fun _ => returns_ok _
  | slice start stop => exact returns_ok _
  | rest start => exact returns_ok _
  | little width start =>
      exact (littleAt_returns enough).bind fun _ => returns_ok _

theorem readFields_returns {fields : List (String × IeRead)}
    (enough : ∀ field ∈ fields, field.2.needs ≤ info.length) :
    Returns (readFields info fields) := by
  induction fields with
  | nil => exact returns_ok _
  | cons field rest ih =>
      rw [List.forall_mem_cons] at enough
      exact (IeRead.read_returns enough.1).bind fun _value =>
        (ih enough.2).bind fun _others => returns_ok _

theorem IeGuard.unpack_returns {check : IeGuard}
    (needed : ∀ field ∈ check.fields, field.2.needs ≤ check.least)
    (info : Bytes) : Returns (check.unpack info) := by
  refine returns_ite ?_ fun _short => returns_ok _
  intro enough
  exact readFields_returns fun field among =>
    (needed field among).trans enough

/-- What is read behind checks that suffice is there. -/
theorem unpackGuards_returns {guards : List IeGuard}
    (suffice : guardsSuffice guards = true) (info : Bytes) :
    Returns (unpackGuards info guards) := by
  induction guards with
  | nil => exact returns_ok _
  | cons check rest ih =>
      unfold guardsSuffice at suffice ih
      rw [List.all_cons, Bool.and_eq_true] at suffice
      have needed : ∀ field ∈ check.fields,
          field.2.needs ≤ check.least := by
        simpa only [List.all_eq_true, decide_eq_true_eq] using suffice.1
      exact (IeGuard.unpack_returns needed info).bind fun _attributes =>
        (ih suffice.2).bind fun _others => returns_ok _

theorem extIdGuard_returns (info : Bytes) :
    Returns (extIdGuard.unpack info) := by
  apply IeGuard.unpack_returns
  intro field among
  rw [List.mem_singleton.mp among]
  exact Nat.le_refl 1

theorem heBandCapability_returns (info : Bytes) :
    Returns (heBandCapability info) := by
  refine returns_ite ?_ fun _short => returns_ok _
  intro enough
  exact (byteAt_returns (by omega)).bind fun _minMcs =>
    (littleAt_returns enough).bind fun _word => returns_ok _

theorem unpackHe6GhzBand_returns (info : Bytes) :
    Returns (unpackHe6GhzBand info) :=
  (extIdGuard_returns info).bind fun _extId =>
    (heBandCapability_returns info).bind fun _capability => returns_ok _

theorem mlControl_returns (info : Bytes) : Returns (mlControl info) := by
  refine returns_ite ?_ fun _short => returns_ok _
  intro enough
  exact (littleAt_returns enough).bind fun _control => returns_ok _

theorem unpackMlElement_returns (info : Bytes) :
    Returns (unpackMlElement info) :=
  (extIdGuard_returns info).bind fun _extId =>
    (mlControl_returns info).bind fun _control => returns_ok _

theorem unpackVhtCapability_returns (info : Bytes) :
    Returns (unpackVhtCapability info) := by
  refine returns_ite ?_ fun _short => returns_ok _
  intro enough
  refine (littleAt_returns (by omega)).bind fun _vhtCapInfo => ?_
  refine (littleAt_returns (by omega)).bind fun _rxMap => ?_
  exact (littleAt_returns (by omega)).bind fun _txMap => returns_ok _

theorem optionalCount_returns (info : Bytes) (off : Nat) :
    Returns (optionalCount info off) := by
  refine returns_ite ?_ fun _short => returns_ok _
  intro enough
  exact (littleAt_returns enough).bind fun _count => returns_ok _

theorem unpackRsn_returns (info : Bytes) : Returns (unpackRsn info) := by
  refine returns_ite ?_ fun _short => returns_ok _
  intro enough
  refine (littleAt_returns (by omega)).bind fun _version => ?_
  refine (littleAt_returns (by omega)).bind fun _pairwiseCount => ?_
  refine (optionalCount_returns info _).bind fun _akmCount => ?_
  exact (optionalCount_returns info _).bind fun _caps => returns_ok _

theorem tripletReader_returns (info : Bytes) (enough : 3 ≤ info.length) :
    Returns (tripletReader.read info) := by
  refine (byteAt_returns (by omega)).bind fun _pwr => ?_
  refine (byteAt_returns (by omega)).bind fun _channel => ?_
  exact (byteAt_returns (by omega)).bind fun _channels => returns_ok _

theorem unpackCountry_returns (info : Bytes) :
    Returns (unpackCountry info) := by
  have triplets : Returns (tripletReader.strides 3 info 3) :=
    ItemReader.strides_total (Nat.succ_pos 2) tripletReader_returns info 3
  exact triplets.bind fun _triplets => returns_ok _

theorem wmmParamReader_returns (info : Bytes) (enough : 4 ≤ info.length) :
    Returns (wmmParamReader.read info) := by
  refine (byteAt_returns (by omega)).bind fun _first => ?_
  exact (littleAt_returns (by omega)).bind fun _param => returns_ok _

theorem unpackWmm_returns (info : Bytes) : Returns (unpackWmm info) := by
  refine returns_ite ?_ fun _other => returns_ok _
  rintro ⟨enough, _oui⟩
  have params : Returns (wmmParamReader.strides 4 info 7) :=
    ItemReader.strides_total (Nat.succ_pos 3) wmmParamReader_returns info 7
  refine (byteAt_returns (by omega)).bind fun _ouiType => ?_
  refine (byteAt_returns (by omega)).bind fun _subtype => ?_
  refine (byteAt_returns (by omega)).bind fun _version => ?_
  refine (byteAt_returns (by omega)).bind fun _qosInfo => ?_
  exact params.bind fun _params => returns_ok _

theorem IeClass.unpackInfo_returns (cls : IeClass) (info : Bytes) :
    Returns (cls.unpackInfo info) := by
  cases cls with
  | base => exact returns_ok _
  | heCapability => exact unpackGuards_returns rfl info
  | heOperation => exact unpackGuards_returns rfl info
  | heSpatialReuse => exact unpackGuards_returns rfl info
  | heBssColorChange => exact unpackGuards_returns rfl info
  | heTwt => exact unpackGuards_returns rfl info
  | he6GhzBand => exact unpackHe6GhzBand_returns info
  | heMcsNss => exact unpackGuards_returns rfl info
  | ehtCapability => exact unpackGuards_returns rfl info
  | ehtOperation => exact unpackGuards_returns rfl info
  | ehtTidLink => exact unpackGuards_returns rfl info
  | mlElement => exact unpackMlElement_returns info
  | htCapability => exact unpackGuards_returns rfl info
  | htInfo => exact unpackGuards_returns rfl info
  | vhtCapability => exact unpackVhtCapability_returns info
  | vhtOperation => exact unpackGuards_returns rfl info
  | erp => exact unpackGuards_returns rfl info
  | rsn => exact unpackRsn_returns info
  | extCap => exact unpackGuards_returns rfl info
  | country => exact unpackCountry_returns info
  | wmm => exact unpackWmm_returns info

end Returns

end DpktNg.Ieee80211
