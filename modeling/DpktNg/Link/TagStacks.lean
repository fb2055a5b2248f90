/-
Frames with a stack of tags or labels over data without a parser, and why none
of them comes back.
-/

import DpktNg.Link.EthernetBytes
import DpktNg.Link.Nesting

namespace DpktNg.Link

open Library Inet

variable {Other : Type} {others : Others Other}

/-! ### The frames -/

/-- One 802.1Q tag, or an 802.1ad or 802.1Q tag in front of one. -/
inductive TagStack where
  | one (tci : UInt16)
  | two (provider : Bool) (outer inner : UInt16)

/-- The EtherType in the header. -/
def TagStack.headerType : TagStack → Nat
  | .one _ => ethType8021Q
  | .two true _ _ => ethType8021AD
  | .two false _ _ => ethType8021Q

/-- The tags, when `type` is the innermost EtherType. -/
def TagStack.tags (type : Nat) : TagStack → List VLANtag8021Q
  | .one tci => [⟨tci.toNat, type⟩]
  | .two _ outer inner => [⟨outer.toNat, ethType8021Q⟩, ⟨inner.toNat, type⟩]

def tagBytes (tag : VLANtag8021Q) : Bytes :=
  beBytes 2 tag.priCfiId ++ beBytes 2 tag.type

/-- A label without its bottom-of-stack bit, by the bits around it. -/
structure LabelEntry where
  high : Nat
  ttl : UInt8
  room : high < 2 ^ 23

def LabelEntry.label (entry : LabelEntry) (s : Nat) : MPLSlabel :=
  { valExpSTtl := (entry.high * 2 + s) * 2 ^ 8 + entry.ttl.toNat }

structure LabelStack where
  above : List LabelEntry
  bottom : LabelEntry
  room : above.length < 24

def LabelStack.labels (stack : LabelStack) : List MPLSlabel :=
  stack.above.map (LabelEntry.label · 0) ++ [stack.bottom.label 1]

def labelBytes (label : MPLSlabel) : Bytes := beBytes 4 label.valExpSTtl

/-- What stands between the addresses and the payload.  A tagged frame needs an
innermost EtherType without a parser, a labelled one a payload that the
heuristics for the next type pass over. -/
inductive StackFields (others : Others Other) (payload : Bytes) where
  | tagged (tags : TagStack) (type : UInt16)
      (notTag : type.toNat ∉ ethTypesQinQ) (notMpls : type.toNat ∉ ethTypesMpls)
      (unregistered : typesw others (Layer.parse others) type.toNat = none)
  | labelled (multicast : Bool) (labels : LabelStack)
      (short : payload.length < 14)
      (notIp : ∀ byte ∈ payload.head?, byte ≠ 0x45 ∧ byte &&& 0xf0 ≠ 0x60)

structure StackedFrame (others : Others Other) where
  dst : Bytes
  src : Bytes
  payload : Bytes
  fields : StackFields others payload
  dstLength : dst.length = 6
  srcLength : src.length = 6
  nonempty : payload ≠ []

namespace StackedFrame

def headerType (frame : StackedFrame others) : Nat :=
  match frame.fields with
  | .tagged tags _ _ _ _ => tags.headerType
  | .labelled false _ _ _ => ethTypeMpls
  | .labelled true _ _ _ => ethTypeMplsMcast

def stackBytes (frame : StackedFrame others) : Bytes :=
  match frame.fields with
  | .tagged tags type _ _ _ => (tags.tags type.toNat).flatMap tagBytes
  | .labelled _ labels _ _ => labels.labels.flatMap labelBytes

def bytes (frame : StackedFrame others) : Bytes :=
  frame.dst ++ frame.src ++ beBytes 2 frame.headerType ++ frame.stackBytes ++
    frame.payload

def vlanTags (frame : StackedFrame others) : List VlanTag :=
  match frame.fields with
  | .tagged tags type _ _ _ => (tags.tags type.toNat).map .dot1q
  | .labelled _ _ _ _ => []

def mplsLabels (frame : StackedFrame others) : List MPLSlabel :=
  match frame.fields with
  | .tagged _ _ _ _ _ => []
  | .labelled _ labels _ _ => labels.labels

/-- `Ethernet(buf)` has the tags or labels and the payload, and its bytes are
those of the frame. -/
def Restored (serialisers : Serialisers Other) (frame : StackedFrame others) :
    Prop :=
  ∃ eth, parseFrame others frame.bytes = .ok eth ∧
    eth.vlanTags = frame.vlanTags ∧ eth.mplsLabels = frame.mplsLabels ∧
    eth.data = .raw frame.payload ∧
    eth.bytes serialisers = .ok frame.bytes

end StackedFrame

/-! ### Reading a stack -/

theorem tagBytes_length (tag : VLANtag8021Q) : (tagBytes tag).length = 4 := by
  unfold tagBytes
  rw [List.length_append, beBytes_length, beBytes_length]

theorem labelBytes_length (label : MPLSlabel) : (labelBytes label).length = 4 :=
  beBytes_length _ _

theorem VLANtag8021Q.parse_bytes {tag : VLANtag8021Q}
    (tci : tag.priCfiId < 2 ^ 16) (type : tag.type < 2 ^ 16) (rest : Bytes) :
    VLANtag8021Q.parse (tagBytes tag ++ rest) = .ok tag := by
  have first : cut (tagBytes tag ++ rest) 0 2 = beBytes 2 tag.priCfiId := by
    unfold tagBytes
    rw [List.append_assoc]
    exact cut_front rfl _
  have second : cut (tagBytes tag ++ rest) 2 4 = beBytes 2 tag.type :=
    cut_middle rfl rfl rest
  rw [VLANtag8021Q.parse_eq, if_neg]
  · unfold tagAt
    rw [first, second, beNat_beBytes tci, beNat_beBytes type]
  · rw [List.length_append, tagBytes_length]
    omega

theorem MPLSlabel.parse_bytes {label : MPLSlabel}
    (word : label.valExpSTtl < 2 ^ 32) (rest : Bytes) :
    MPLSlabel.parse (labelBytes label ++ rest) = .ok label := by
  have field : cut (labelBytes label ++ rest) 0 4 =
      beBytes 4 label.valExpSTtl := cut_front rfl rest
  rw [MPLSlabel.parse_eq, if_neg]
  · unfold labelAt
    rw [field, beNat_beBytes word]
  · rw [List.length_append, labelBytes_length]
    omega

theorem readStack_entries {Entry : Type}
    {parse : Bytes → Except PyError Entry} {isLast : Entry → Bool}
    {bytes : Entry → Bytes} {above : List Entry} {last : Entry} {rest : Bytes}
    (parses : ∀ entry ∈ above ++ [last], ∀ behind,
      parse (bytes entry ++ behind) = .ok entry)
    (four : ∀ entry, (bytes entry).length = 4)
    (notLast : ∀ entry ∈ above, isLast entry = false)
    (isBottom : isLast last = true) {count : Nat}
    (room : above.length < count) :
    readStack parse isLast count ((above ++ [last]).flatMap bytes ++ rest) =
      .ok (above ++ [last], rest) := by
  induction above generalizing count with
  | nil =>
      obtain ⟨fewer, same⟩ : ∃ fewer, count = fewer + 1 :=
        ⟨count - 1, by omega⟩
      rw [List.nil_append, List.forall_mem_singleton] at parses
      rw [same, readStack, List.nil_append, List.flatMap_singleton,
        parses rest, ok_bind, if_pos isBottom, List.drop_left' (four last)]
  | cons entry above ih =>
      obtain ⟨fewer, same⟩ : ∃ fewer, count = fewer + 1 :=
        ⟨count - 1, by omega⟩
      rw [List.cons_append, List.forall_mem_cons] at parses
      rw [List.forall_mem_cons] at notLast
      rw [List.length_cons] at room
      rw [same, readStack, List.cons_append, List.flatMap_cons,
        List.append_assoc, parses.1 _, ok_bind,
        if_neg (by rw [notLast.1]; decide), List.drop_left' (four entry),
        ih parses.2 notLast.2 (by omega)]
      rfl

theorem TagStack.headerType_mem (tags : TagStack) :
    tags.headerType ∈ ethTypesQinQ := by
  cases tags with
  | one tci => exact List.mem_cons_self
  | two provider outer inner =>
      cases provider with
      | false => exact List.mem_cons_self
      | true => exact List.mem_cons_of_mem _ List.mem_cons_self

theorem TagStack.stripStack_tags (tags : TagStack) {type : Nat}
    (word : type < 2 ^ 16) (notTag : type ∉ ethTypesQinQ) (payload : Bytes) :
    stripStack (some tags.headerType)
        ((tags.tags type).flatMap tagBytes ++ payload) =
      .ok (.vlan (tags.tags type), some type, payload) := by
  have notDot1q : type ≠ ethType8021Q := by
    intro same
    rw [same] at notTag
    exact notTag (by decide)
  have innermost : decide (type ≠ ethType8021Q) = true :=
    decide_eq_true notDot1q
  have dot1q : ethType8021Q < 2 ^ 16 := by decide
  have word16 : ∀ tci : UInt16, tci.toNat < 2 ^ 16 := UInt16.toNat_lt
  unfold stripStack
  dsimp only
  rw [if_pos tags.headerType_mem]
  cases tags with
  | one tci =>
      have read := @readStack_entries _ VLANtag8021Q.parse
        (fun tag => tag.type ≠ ethType8021Q) tagBytes [] ⟨tci.toNat, type⟩
        payload
        (List.forall_mem_singleton.mpr (VLANtag8021Q.parse_bytes
          (word16 tci) word))
        tagBytes_length (fun entry impossible => by cases impossible)
        innermost 2 (by decide)
      unfold TagStack.tags
      rw [List.nil_append] at read
      rw [read, ok_bind]
      rfl
  | two provider outer inner =>
      have read := @readStack_entries _ VLANtag8021Q.parse
        (fun tag => tag.type ≠ ethType8021Q) tagBytes
        [⟨outer.toNat, ethType8021Q⟩] ⟨inner.toNat, type⟩ payload
        (by
          rw [List.singleton_append, List.forall_mem_cons,
            List.forall_mem_singleton]
          exact ⟨VLANtag8021Q.parse_bytes (word16 outer) dot1q,
            VLANtag8021Q.parse_bytes (word16 inner) word⟩)
        tagBytes_length (List.forall_mem_singleton.mpr rfl) innermost 2
        (Nat.lt_succ_self 1)
      unfold TagStack.tags
      rw [List.singleton_append] at read
      rw [read, ok_bind]
      rfl

theorem LabelEntry.label_s (entry : LabelEntry) {flag : Nat} (bit : flag < 2) :
    (entry.label flag).s = flag := by
  have small := entry.ttl.toNat_lt
  unfold LabelEntry.label MPLSlabel.s
  dsimp only
  omega

theorem LabelEntry.label_lt (entry : LabelEntry) {flag : Nat}
    (bit : flag < 2) : (entry.label flag).valExpSTtl < 2 ^ 32 := by
  have small := entry.ttl.toNat_lt
  have room := entry.room
  unfold LabelEntry.label
  dsimp only
  omega

/-- The heuristics for the next type keep the type of the labels. -/
theorem guessType_payload {payload : Bytes} (nonempty : payload ≠ [])
    (short : payload.length < 14)
    (notIp : ∀ byte ∈ payload.head?, byte ≠ 0x45 ∧ byte &&& 0xf0 ≠ 0x60)
    (type : Nat) : guessType type payload = .ok (type, payload) := by
  cases payload with
  | nil => exact absurd rfl nonempty
  | cons byte rest =>
      obtain ⟨notIp4, notIp6⟩ := notIp byte rfl
      unfold guessType
      dsimp only
      rw [if_neg notIp4, if_neg notIp6, if_neg (by omega)]

theorem LabelStack.stripStack_labels (stack : LabelStack) {type : Nat}
    (announced : type ∈ ethTypesMpls) {payload : Bytes}
    (guess : guessType type payload = .ok (type, payload)) :
    stripStack (some type) (stack.labels.flatMap labelBytes ++ payload) =
      .ok (.mpls stack.labels, some type, payload) := by
  have notTag : type ∉ ethTypesQinQ := by
    rcases List.mem_pair.mp announced with same | same
    · rw [same]
      decide
    · rw [same]
      decide
  have parses : ∀ label ∈ stack.labels, ∀ behind,
      MPLSlabel.parse (labelBytes label ++ behind) = .ok label := by
    intro label member behind
    rcases List.mem_append.mp member with above | bottom
    · obtain ⟨entry, _among, same⟩ := List.mem_map.mp above
      rw [← same]
      exact MPLSlabel.parse_bytes (entry.label_lt (by decide)) behind
    · rw [List.mem_singleton.mp bottom]
      exact MPLSlabel.parse_bytes (stack.bottom.label_lt (by decide)) behind
  have notLast : ∀ label ∈ stack.above.map (LabelEntry.label · 0),
      decide (label.s = 1) = false := by
    intro label member
    obtain ⟨entry, _among, same⟩ := List.mem_map.mp member
    rw [← same, entry.label_s (by decide)]
    rfl
  have isBottom : decide ((stack.bottom.label 1).s = 1) = true := by
    rw [stack.bottom.label_s (by decide)]
    rfl
  have read := @readStack_entries _ MPLSlabel.parse
    (fun label => label.s = 1) labelBytes (stack.above.map (LabelEntry.label · 0))
    (stack.bottom.label 1) payload parses labelBytes_length notLast isBottom
    24 (by rw [List.length_map]; exact stack.room)
  unfold stripStack
  dsimp only
  rw [if_neg notTag, if_pos announced]
  unfold LabelStack.labels
  rw [read, ok_bind]
  dsimp only
  rw [guess, ok_bind]

/-! ### Parsing the frames -/

section Parsing

variable {sub : Layer → Bytes → Except PyError (Carrier Other)}

theorem Ethernet.unpack_type {dst src rest : Bytes} {type : Nat}
    (dstLength : dst.length = 6) (srcLength : src.length = 6)
    (word : type < 2 ^ 16) (isType : type > 1500) :
    Ethernet.unpack others sub { data := .raw [] }
        (dst ++ src ++ beBytes 2 type ++ rest) =
      Ethernet.unpackData others sub
        { dst, src, type, nextType := some type, data := .raw rest } rest := by
  have header : (dst ++ src ++ beBytes 2 type).length = 14 := by
    rw [List.length_append, List.length_append, beBytes_length]
    omega
  have behind : (dst ++ src ++ beBytes 2 type ++ rest).drop 14 = rest :=
    List.drop_left' header
  have first : cut (dst ++ src ++ beBytes 2 type ++ rest) 0 6 = dst := by
    rw [List.append_assoc, List.append_assoc]
    exact cut_front dstLength _
  have second : cut (dst ++ src ++ beBytes 2 type ++ rest) 6 12 = src := by
    rw [List.append_assoc]
    exact cut_middle dstLength (by omega) _
  have third : cut (dst ++ src ++ beBytes 2 type ++ rest) 12 14 =
      beBytes 2 type := by
    refine cut_middle ?_ ?_ rest
    · rw [List.length_append]
      omega
    · rw [beBytes_length]
  have long : ¬(dst ++ src ++ beBytes 2 type ++ rest).length < 14 := by
    rw [List.length_append]
    omega
  rw [Ethernet.unpack, dif_neg long]
  unfold Ethernet.setHdr
  dsimp only
  rw [first, second, third, behind, beNat_beBytes word, if_pos isType]

theorem typeDecode_unregistered {type : Nat}
    (unregistered : typesw others sub type = none) (buf : Bytes) :
    (typeUpper others sub).decode (some type) buf = .ok (.raw buf) := by
  unfold Upper.decode typeUpper
  dsimp only
  rw [Option.bind_some, unregistered]

theorem typesw_stackType {type : Nat}
    (stacked : type ∈ ethTypesQinQ ∨ type ∈ ethTypesMpls) :
    typesw others sub type = none := by
  have noLayer : typeLayer type = none := by
    have all : ∀ other ∈ ethTypesQinQ ++ ethTypesMpls,
        typeLayer other = none := by decide
    exact all type (List.mem_append.mpr stacked)
  unfold typesw
  rw [noLayer]
  dsimp only
  rw [if_pos stacked]

theorem Ethernet.unpackData_stack {self : Ethernet (Packet Other)}
    {buf payload : Bytes} {stack : Stack} {next : Nat}
    (stripped : stripStack self.nextType buf = .ok (stack, some next, payload))
    (unregistered :
      typesw others sub (ethType (some next) self.type) = none) :
    self.unpackData others sub buf =
      .ok { self.withStack stack (some next) with data := .raw payload } := by
  unfold Ethernet.unpackData
  rw [stripped, ok_bind]
  dsimp only
  rw [typeDecode_unregistered unregistered, ok_bind]

end Parsing

/-! ### What becomes of a frame -/

def taggedEthernet (dst src payload : Bytes) (tags : TagStack) (type : Nat) :
    Ethernet (Packet Other) :=
  { dst
    src
    type := tags.headerType
    nextType := some type
    vlanTags := (tags.tags type).map .dot1q
    data := .raw payload }

theorem TagStack.headerType_lt (tags : TagStack) :
    tags.headerType < 2 ^ 16 ∧ tags.headerType > 1500 := by
  have all : ∀ type ∈ ethTypesQinQ, type < 2 ^ 16 ∧ type > 1500 := by decide
  exact all _ tags.headerType_mem

theorem parse_tagged {dst src payload : Bytes} (dstLength : dst.length = 6)
    (srcLength : src.length = 6) (nonempty : payload ≠ []) (tags : TagStack)
    {type : Nat} (word : type < 2 ^ 16) (notTag : type ∉ ethTypesQinQ)
    (notMpls : type ∉ ethTypesMpls)
    (unregistered : typesw others (Layer.parse others) type = none) :
    parseFrame others (dst ++ src ++ beBytes 2 tags.headerType ++
        ((tags.tags type).flatMap tagBytes ++ payload)) =
      .ok (taggedEthernet dst src payload tags type) := by
  have shown : typesw others (Layer.parse others)
      (ethType (some type) tags.headerType) = none := by
    unfold ethType
    dsimp only
    split
    · exact typesw_stackType (Or.inl tags.headerType_mem)
    · exact unregistered
  have first := @Ethernet.unpack_type Other others (Layer.parse others) dst src
    ((tags.tags type).flatMap tagBytes ++ payload) tags.headerType dstLength
    srcLength tags.headerType_lt.1 tags.headerType_lt.2
  rw [Ethernet.unpackData_stack (tags.stripStack_tags word notTag payload)
    shown] at first
  have second : stripStack (some type) payload =
      .ok (.none, some type, payload) := by
    unfold stripStack
    dsimp only
    rw [if_neg notTag, if_neg notMpls]
  unfold parseFrame Ethernet.parse
  rw [packetInit_eq_ok.mpr first, ok_bind]
  unfold Ethernet.secondPass
  cases payload with
  | nil => exact absurd rfl nonempty
  | cons byte rest =>
      exact @Ethernet.unpackData_stack Other others (Layer.parse others)
        (taggedEthernet dst src (byte :: rest) tags type) _ _ .none type second
        shown

theorem unpack_labelled {dst src payload : Bytes} (dstLength : dst.length = 6)
    (srcLength : src.length = 6) (labels : LabelStack) {type : Nat}
    (announced : type ∈ ethTypesMpls)
    (guess : guessType type payload = .ok (type, payload)) :
    ∃ frame, Ethernet.unpack others (Layer.parse others) { data := .raw [] }
        (dst ++ src ++ beBytes 2 type ++
          (labels.labels.flatMap labelBytes ++ payload)) = .ok frame ∧
      frame.nextType = some type ∧ frame.data = .raw payload := by
  have range : ∀ type ∈ ethTypesMpls,
      type < 2 ^ 16 ∧ type > 1500 ∧ type ≠ 0 := by decide
  obtain ⟨word, isType, notZero⟩ := range type announced
  have shown : typesw others (Layer.parse others)
      (ethType (some type) type) = none := by
    unfold ethType
    dsimp only
    rw [if_neg notZero]
    exact typesw_stackType (Or.inr announced)
  have first := @Ethernet.unpack_type Other others (Layer.parse others) dst src
    (labels.labels.flatMap labelBytes ++ payload) type dstLength srcLength word
    isType
  rw [Ethernet.unpackData_stack (labels.stripStack_labels announced guess)
    shown] at first
  exact ⟨_, first, rfl, rfl⟩

theorem stripStack_mpls_shorter {type : Nat} {buf data : Bytes} {stack : Stack}
    {next : Option Nat} (announced : type ∈ ethTypesMpls)
    (stripped : stripStack (some type) buf = .ok (stack, next, data)) :
    data.length < buf.length := by
  have notTag : type ∉ ethTypesQinQ := by
    rcases List.mem_pair.mp announced with same | same
    · rw [same]
      decide
    · rw [same]
      decide
  unfold stripStack at stripped
  dsimp only at stripped
  rw [if_neg notTag, if_pos announced] at stripped
  obtain ⟨⟨labels, rest⟩, read, remaining⟩ := bind_eq_ok.mp stripped
  obtain ⟨⟨guessed, behind⟩, guess, done⟩ := bind_eq_ok.mp remaining
  cases done
  have behindLabels : behind.length ≤ rest.length :=
    (guessType_suffix guess).length_le
  rw [readStack, MPLSlabel.parse_eq] at read
  split at read
  · cases read
  · rename_i enough
    have shorter : rest.length ≤ (buf.drop 4).length := by
      rw [ok_bind] at read
      split at read
      · cases read
        exact Nat.le_refl _
      · obtain ⟨⟨others, left⟩, readOthers, same⟩ := bind_eq_ok.mp read
        cases same
        exact (readStack_suffix readOthers).length_le
    rw [List.length_drop] at shorter
    change behind.length < buf.length
    omega

/-- The second pass over labels never leaves all of the payload as data. -/
theorem secondPass_labelled {frame eth : Ethernet (Packet Other)}
    {payload : Bytes} {type : Nat} (announced : type ∈ ethTypesMpls)
    (nextType : frame.nextType = some type) (data : frame.data = .raw payload)
    (nonempty : payload ≠ [])
    (parsed : frame.secondPass others (Layer.parse others) = .ok eth) :
    eth.data ≠ .raw payload := by
  intro kept
  cases payload with
  | nil => exact absurd rfl nonempty
  | cons byte rest =>
      unfold Ethernet.secondPass at parsed
      rw [data] at parsed
      obtain ⟨⟨stack, next, behind⟩, stripped, remaining⟩ :=
        bind_eq_ok.mp parsed
      obtain ⟨decoded, decode, same⟩ := bind_eq_ok.mp remaining
      cases same
      change decoded = .raw (byte :: rest) at kept
      rw [kept] at decode
      rw [nextType] at stripped
      have shorter := stripStack_mpls_shorter announced stripped
      rw [typeDecode_raw decode] at shorter
      omega

/-! ### The bytes of tagged frames -/

variable {serialisers : Serialisers Other}

theorem beBytes_injective {width value other : Nat}
    (fits : value < 256 ^ width) (fitsOther : other < 256 ^ width)
    (same : beBytes width value = beBytes width other) : value = other := by
  have values := congrArg beNat same
  rw [beNat_beBytes fits, beNat_beBytes fitsOther] at values
  exact values

theorem packHdr_tag {tag : VLANtag8021Q} (tci : tag.priCfiId < 2 ^ 16)
    (type : tag.type < 2 ^ 16) : tag.packHdr = .ok (tagBytes tag) := by
  unfold VLANtag8021Q.packHdr tagBytes
  rw [packHdr_eq_ok_iff, List.flatMap_cons, List.flatMap_singleton]
  refine ⟨?_, rfl⟩
  intro field member
  rcases List.mem_pair.mp member with same | same
  · rw [same]
    exact tci
  · rw [same]
    exact type

theorem joinHdrs_tags {tags : List VLANtag8021Q}
    (fit : ∀ tag ∈ tags, tag.priCfiId < 2 ^ 16 ∧ tag.type < 2 ^ 16) :
    joinHdrs VlanTag.packHdr (tags.map .dot1q) =
      .ok (tags.flatMap tagBytes) := by
  induction tags with
  | nil => rfl
  | cons tag rest ih =>
      rw [List.forall_mem_cons] at fit
      have first : VlanTag.packHdr (.dot1q tag) = .ok (tagBytes tag) :=
        packHdr_tag fit.1.1 fit.1.2
      rw [List.map_cons, joinHdrs, first, ok_bind, ih fit.2, ok_bind,
        List.flatMap_cons]

theorem TagStack.tags_fit (tags : TagStack) {type : Nat} (word : type < 2 ^ 16) :
    ∀ tag ∈ tags.tags type, tag.priCfiId < 2 ^ 16 ∧ tag.type < 2 ^ 16 := by
  cases tags with
  | one tci => exact List.forall_mem_singleton.mpr ⟨tci.toNat_lt, word⟩
  | two provider outer inner =>
      unfold TagStack.tags
      rw [List.forall_mem_cons, List.forall_mem_singleton]
      have dot1q : ethType8021Q < 2 ^ 16 := by decide
      exact ⟨⟨outer.toNat_lt, dot1q⟩, ⟨inner.toNat_lt, word⟩⟩

/-- The type of the innermost tag is replaced by the type of the header. -/
theorem packTags_tagged (dst src payload : Bytes) (tags : TagStack)
    (type : Nat) :
    (taggedEthernet dst src payload tags type).packTags serialisers =
      .ok ((tags.tags tags.headerType).flatMap tagBytes, tags.headerType,
        false) := by
  have joined := joinHdrs_tags (tags.tags_fit tags.headerType_lt.1)
  unfold Ethernet.packTags taggedEthernet
  dsimp only
  rw [if_neg (by decide)]
  cases tags with
  | one tci =>
      change (joinHdrs VlanTag.packHdr
        [.dot1q ⟨tci.toNat, ethType8021Q⟩] >>= _) = _
      change joinHdrs VlanTag.packHdr
        [.dot1q ⟨tci.toNat, ethType8021Q⟩] = _ at joined
      rw [joined, ok_bind]
      rfl
  | two provider outer inner =>
      cases provider with
      | false =>
          change joinHdrs VlanTag.packHdr
            [.dot1q ⟨outer.toNat, ethType8021Q⟩,
              .dot1q ⟨inner.toNat, ethType8021Q⟩] = _ at joined
          change (joinHdrs VlanTag.packHdr
            [.dot1q ⟨outer.toNat, ethType8021Q⟩,
              .dot1q ⟨inner.toNat, ethType8021Q⟩] >>= _) = _
          rw [joined, ok_bind]
          rfl
      | true =>
          change joinHdrs VlanTag.packHdr
            [.dot1q ⟨outer.toNat, ethType8021Q⟩,
              .dot1q ⟨inner.toNat, ethType8021AD⟩] = _ at joined
          change (joinHdrs VlanTag.packHdr
            [.dot1q ⟨outer.toNat, ethType8021Q⟩,
              .dot1q ⟨inner.toNat, ethType8021AD⟩] >>= _) = _
          rw [joined, ok_bind]
          rfl

/-- The bytes of a tagged frame are those with the type of the header in the
innermost tag. -/
theorem bytes_tagged {dst src : Bytes} (dstLength : dst.length = 6)
    (srcLength : src.length = 6) (payload : Bytes) (tags : TagStack)
    (type : Nat) :
    (taggedEthernet dst src payload tags type).bytes serialisers =
      .ok (dst ++ src ++ beBytes 2 tags.headerType ++
        (tags.tags tags.headerType).flatMap tagBytes ++ payload) := by
  have word := tags.headerType_lt.1
  have address : ∀ {bytes : Bytes}, bytes.length = 6 →
      packString 6 bytes = bytes := by
    intro bytes six
    unfold packString
    exact List.take_left' six
  have own : packHdr [(2, tags.headerType)] =
      .ok (beBytes 2 tags.headerType) := by
    rw [packHdr_eq_ok_iff, List.flatMap_singleton]
    exact ⟨List.forall_mem_singleton.mpr word, rfl⟩
  have typeField : packBe 2 tags.headerType =
      .ok (beBytes 2 tags.headerType) := if_pos word
  have header : (taggedEthernet dst src payload tags type).packHdr
      serialisers = .ok (dst ++ src ++ beBytes 2 tags.headerType ++
        (tags.tags tags.headerType).flatMap tagBytes) := by
    unfold Ethernet.packHdr
    rw [packTags_tagged, ok_bind]
    change (packHdr [(2, tags.headerType)] >>= fun _own =>
      packBe 2 tags.headerType >>= fun type =>
        Except.ok (packString 6 dst ++ packString 6 src ++ type ++
          (tags.tags tags.headerType).flatMap tagBytes)) = _
    rw [own, ok_bind, typeField, ok_bind, address dstLength,
      address srcLength]
  have data : dataBytes serialisers (.raw payload) = .ok payload :=
    serialisers.bytes_raw payload
  unfold Ethernet.bytes
  rw [header]
  change (dataBytes serialisers (.raw payload) >>= fun data =>
    Except.ok (dst ++ src ++ beBytes 2 tags.headerType ++
      (tags.tags tags.headerType).flatMap tagBytes ++ data ++ [])) = _
  rw [data, ok_bind, List.append_nil]

theorem tagBytes_type {tags : TagStack} {type other : Nat}
    (word : type < 2 ^ 16) (wordOther : other < 2 ^ 16)
    (same : (tags.tags type).flatMap tagBytes =
      (tags.tags other).flatMap tagBytes) : type = other := by
  cases tags with
  | one tci =>
      change [(⟨tci.toNat, type⟩ : VLANtag8021Q)].flatMap tagBytes =
        [(⟨tci.toNat, other⟩ : VLANtag8021Q)].flatMap tagBytes at same
      rw [List.flatMap_singleton, List.flatMap_singleton] at same
      exact beBytes_injective word wordOther (List.append_cancel_left same)
  | two provider outer inner =>
      change tagBytes ⟨outer.toNat, ethType8021Q⟩ ++
        [(⟨inner.toNat, type⟩ : VLANtag8021Q)].flatMap tagBytes =
          tagBytes ⟨outer.toNat, ethType8021Q⟩ ++
            [(⟨inner.toNat, other⟩ : VLANtag8021Q)].flatMap tagBytes at same
      have inners := List.append_cancel_left same
      rw [List.flatMap_singleton, List.flatMap_singleton] at inners
      exact beBytes_injective word wordOther (List.append_cancel_left inners)

/-- No frame with tags or labels comes back.  Over tags the type of the
innermost one is written over, and labels are looked for a second time, in the
payload. -/
theorem stacked_frame_not_restored (others : Others Other)
    (serialisers : Serialisers Other) (frame : StackedFrame others) :
    ¬frame.Restored serialisers := by
  obtain ⟨dst, src, payload, fields, dstLength, srcLength, nonempty⟩ := frame
  rintro ⟨eth, parsed, _sameTags, _sameLabels, sameData, sameBytes⟩
  cases fields with
  | tagged tags type notTag notMpls unregistered =>
      have expected := parse_tagged dstLength srcLength nonempty tags
        type.toNat_lt notTag notMpls unregistered
      have built : parseFrame others (dst ++ src ++
          beBytes 2 tags.headerType ++
            (tags.tags type.toNat).flatMap tagBytes ++ payload) = .ok eth :=
        parsed
      rw [List.append_assoc, expected, Except.ok.injEq] at built
      rw [← built, bytes_tagged dstLength srcLength, Except.ok.injEq]
        at sameBytes
      have inner := List.append_cancel_left (List.append_cancel_right sameBytes)
      have type_same := tagBytes_type tags.headerType_lt.1 type.toNat_lt inner
      rw [← type_same] at notTag
      exact notTag tags.headerType_mem
  | labelled multicast labels short notIp =>
      obtain ⟨type, announced, header⟩ : ∃ type ∈ ethTypesMpls,
          (StackedFrame.headerType ⟨dst, src, payload,
            .labelled multicast labels short notIp, dstLength, srcLength,
            nonempty⟩ : Nat) = type := by
        cases multicast with
        | false => exact ⟨_, List.mem_cons_self, rfl⟩
        | true =>
            exact ⟨_, List.mem_cons_of_mem _ List.mem_cons_self, rfl⟩
      obtain ⟨first, unpacked, nextType, data⟩ :=
        @unpack_labelled Other others dst src payload dstLength srcLength labels
          type announced (guessType_payload nonempty short notIp type)
      have built : parseFrame others (dst ++ src ++
          beBytes 2 type ++ labels.labels.flatMap labelBytes ++ payload) =
            .ok eth := by
        rw [← header]
        exact parsed
      unfold parseFrame Ethernet.parse at built
      rw [List.append_assoc, packetInit_eq_ok.mpr unpacked, ok_bind] at built
      exact secondPass_labelled announced nextType data nonempty built sameData

/-- An experimental EtherType behind one tag. -/
def experimentalFrame : StackedFrame noOthers where
  dst := zeros 6
  src := zeros 6
  payload := [1]
  fields := .tagged (.one 5) 0x88b5 (by decide) (by decide) rfl
  dstLength := rfl
  srcLength := rfl
  nonempty := by decide

theorem experimental_type_written_over :
    ¬∀ frame : StackedFrame noOthers, frame.Restored rawSerialisers := by
  intro always
  obtain ⟨eth, parsed, _tags, _labels, _data, bytes⟩ :=
    always experimentalFrame
  have expected : parseFrame noOthers experimentalFrame.bytes =
      .ok (taggedEthernet (zeros 6) (zeros 6) [1] (.one 5) 0x88b5) :=
    @parse_tagged Empty noOthers (zeros 6) (zeros 6) [1] rfl rfl (by decide)
      (.one 5) 0x88b5 (by decide) (by decide) (by decide) rfl
  rw [expected, Except.ok.injEq] at parsed
  rw [← parsed, bytes_tagged rfl rfl] at bytes
  exact absurd bytes (by decide)

end DpktNg.Link
