/-
What `OSPFv3LSU` makes of the bytes of an update.
-/

import DpktNg.Ospf.Version3

namespace DpktNg.Ospf.V3

open Library

structure LSARouterV3.InRange (body : LSARouterV3) : Prop where
  flags : body.flags < 256
  opts : body.opts.length = 3
  links : ∀ link ∈ body.links, RouterLink.format.Fits link

structure LSANetworkV3.InRange (body : LSANetworkV3) : Prop where
  opts : body.opts.length = 3
  routers : ∀ router ∈ body.routers, addressFormat.Fits router

structure LSAInterAreaPrefix.InRange (body : LSAInterAreaPrefix) : Prop where
  metric : body.metric < 256 ^ 3
  prefixLength : body.prefixLength < 256
  prefix_ : body.prefix_.length = prefixBytes body.prefixLength

structure LSAInterAreaRouter.InRange (body : LSAInterAreaRouter) : Prop where
  opts : body.opts.length = 3
  rsv : body.rsv < 256
  metric : body.metric < 256 ^ 3
  destRouter : body.destRouter < 256 ^ 4

structure LSAASExternalV3.InRange (body : LSAASExternalV3) : Prop where
  flags : body.flags < 256
  metric : body.metric < 256 ^ 3
  prefixLength : body.prefixLength < 256
  prefix_ : body.prefix_.length = prefixBytes body.prefixLength
  forwarding : body.forwarding < 256 ^ 4
  tag : body.tag < 256 ^ 4

structure LSALink.InRange (body : LSALink) : Prop where
  routerPriority : body.routerPriority < 256
  opts : body.opts.length = 3
  prefixLength : body.prefixLength < 256
  prefix_ : body.prefix_.length = prefixBytes body.prefixLength

structure AreaPrefix.InRange (body : AreaPrefix) : Prop where
  prefixLength : body.prefixLength < 256
  prefix_ : body.prefix_.length = prefixBytes body.prefixLength

structure LSAIntraAreaPrefix.InRange (body : LSAIntraAreaPrefix) : Prop where
  refType : body.refType < 256 ^ 2
  refId : body.refId < 256 ^ 4
  refAdvRouter : body.refAdvRouter < 256 ^ 4
  prefixes : ∀ p ∈ body.prefixes, p.InRange

def LsaBody.InRange : LsaBody → Prop
  | .header _ => True
  | .router body => body.InRange
  | .network body => body.InRange
  | .interAreaPrefix body => body.InRange
  | .interAreaRouter body => body.InRange
  | .asExternal body => body.InRange
  | .nssa body => body.InRange
  | .link body => body.InRange
  | .intraAreaPrefix body => body.InRange

/-! ### The contents of one LSA -/

/-- The contents are written to bytes of the given length, which are read as
the result. -/
def ReadBack {β : Type} (bytes : Except PyError Bytes)
    (unpack : Bytes → Except PyError β) (length : Nat) (result : β) : Prop :=
  ∃ data, bytes = .ok data ∧ data.length = length ∧ unpack data = .ok result

theorem LSARouterV3.read_back {self : LSARouterV3} (fits : self.InRange) :
    ReadBack self.bytes unpack (4 + 16 * self.links.length) self := by
  have flagsFit := fits.flags
  have optsLength := fits.opts
  have links := RecordFormat.read_recordsOf .big
    (show 0 < RouterLink.format.size by decide) fits.links [] (by decide)
  rw [List.append_nil] at links
  refine ⟨beBytes 1 self.flags ++ (self.opts ++
    (self.links.map (RouterLink.format.bytes .big)).flatten), ?_, ?_, ?_⟩
  · unfold bytes
    rw [byteOf_ok flagsFit, ok_bind, RecordFormat.packAll_ok fits.links,
      ok_bind, List.append_assoc]
  · rw [List.length_append, List.length_append, beBytes_length, optsLength,
      RecordFormat.flatten_length]
    change 1 + (3 + 16 * self.links.length) = _
    omega
  · unfold unpack
    rw [byteAt_front flagsFit, ok_bind,
      cut_behind (beBytes_length 1 _) (by decide), cut_front optsLength,
      drop_behind (beBytes_length 1 _) (by decide),
      drop_behind optsLength (by decide)]
    dsimp only
    rw [List.drop_zero, links]

theorem LSANetworkV3.read_back {self : LSANetworkV3} (fits : self.InRange) :
    ReadBack self.bytes unpack (4 + 4 * self.routers.length) self := by
  have optsLength := fits.opts
  have routers := RecordFormat.read_recordsOf .big addressFormat_size
    fits.routers [] (by decide)
  rw [List.append_nil] at routers
  refine ⟨self.opts ++ ([0] ++
    (self.routers.map (addressFormat.bytes .big)).flatten), ?_, ?_, ?_⟩
  · unfold bytes
    rw [RecordFormat.packAll_ok fits.routers, ok_bind, List.append_assoc]
  · rw [List.length_append, List.length_append, optsLength,
      RecordFormat.flatten_length]
    change 3 + (1 + 4 * self.routers.length) = _
    omega
  · unfold unpack
    rw [cut_front optsLength, drop_behind optsLength (by decide)]
    change Except.ok (LSANetworkV3.mk self.opts (List.map _ (recordsOf _
      (self.routers.map (addressFormat.bytes .big)).flatten))) = _
    rw [routers]

theorem prefix_alone {bytes : Bytes} {prefixLength : Nat}
    (length : bytes.length = prefixBytes prefixLength) (start : Nat) :
    cut bytes 0 (start + prefixBytes prefixLength - start) = bytes := by
  have whole := cut_front length []
  rw [List.append_nil] at whole
  rw [Nat.add_sub_cancel_left, whole]

theorem LSAInterAreaPrefix.read_back {self : LSAInterAreaPrefix}
    (fits : self.InRange) :
    ReadBack self.bytes unpack (4 + self.prefix_.length) self := by
  have metric := beBytes_length 3 self.metric
  have length := beBytes_length 1 self.prefixLength
  refine ⟨beBytes 3 self.metric ++
    (beBytes 1 self.prefixLength ++ self.prefix_), ?_, ?_, ?_⟩
  · unfold bytes
    rw [packMetric_ok fits.metric, ok_bind, byteOf_ok fits.prefixLength, ok_bind,
      List.append_assoc]
  · rw [List.length_append, List.length_append, metric, length]
    omega
  · unfold unpack
    rw [cut_front metric, unpackMetric_beBytes fits.metric, ok_bind,
      byteAt_behind metric (by decide), byteAt_front fits.prefixLength, ok_bind,
      cut_behind metric (by decide), cut_behind length (by decide)]
    exact congrArg (fun p => Except.ok (LSAInterAreaPrefix.mk _ _ p))
      (prefix_alone fits.prefix_ 4)

theorem LSAInterAreaRouter.read_back {self : LSAInterAreaRouter}
    (fits : self.InRange) : ReadBack self.bytes unpack 11 self := by
  have optsLength := fits.opts
  have rsv := beBytes_length 1 self.rsv
  have metric := beBytes_length 3 self.metric
  have destRouter := beBytes_length 4 self.destRouter
  refine ⟨self.opts ++ (beBytes 1 self.rsv ++ (beBytes 3 self.metric ++
    (beBytes 4 self.destRouter ++ []))), ?_, ?_, ?_⟩
  · unfold bytes
    rw [byteOf_ok fits.rsv, ok_bind, packMetric_ok fits.metric, ok_bind,
      packBe_ok fits.destRouter, ok_bind, List.append_nil, List.append_assoc,
      List.append_assoc]
  · simp only [List.length_append, List.length_nil, optsLength, rsv, metric,
      destRouter]
  · unfold unpack
    rw [byteAt_behind optsLength (by decide), byteAt_front fits.rsv, ok_bind,
      cut_behind optsLength (by decide), cut_behind rsv (by decide),
      cut_front metric, unpackMetric_beBytes fits.metric, ok_bind,
      cut_behind optsLength (by decide), cut_behind rsv (by decide),
      cut_behind metric (by decide), cut_front destRouter,
      unpackBe_beBytes fits.destRouter, ok_bind, cut_front optsLength]

theorem LSAASExternalV3.read_back {self : LSAASExternalV3}
    (fits : self.InRange) :
    ReadBack self.bytes unpack (5 + self.prefix_.length + 8) self := by
  have flags := beBytes_length 1 self.flags
  have metric := beBytes_length 3 self.metric
  have plen := beBytes_length 1 self.prefixLength
  have forwarding := beBytes_length 4 self.forwarding
  have tag := beBytes_length 4 self.tag
  have prefixLength := fits.prefix_
  obtain ⟨data, data_eq⟩ : ∃ data, data = beBytes 1 self.flags ++
      (beBytes 3 self.metric ++ (beBytes 1 self.prefixLength ++
        (self.prefix_ ++ (beBytes 4 self.forwarding ++
          (beBytes 4 self.tag ++ []))))) := ⟨_, rfl⟩
  have length : data.length = 5 + self.prefix_.length + 8 := by
    rw [data_eq]
    simp only [List.length_append, List.length_nil, flags, metric, plen,
      forwarding, tag]
    omega
  -- The same bytes, split in front of the prefix and behind it.
  obtain ⟨front, front_eq⟩ : ∃ front, front = beBytes 1 self.flags ++
      (beBytes 3 self.metric ++ beBytes 1 self.prefixLength) := ⟨_, rfl⟩
  have frontLength : front.length = 5 := by
    rw [front_eq]
    simp only [List.length_append, flags, metric, plen]
  have whole : data = front ++ self.prefix_ ++
      (beBytes 4 self.forwarding ++ (beBytes 4 self.tag ++ [])) := by
    rw [data_eq, front_eq]
    simp only [List.append_assoc]
  have prefixCut : cut data 5 (5 + prefixBytes self.prefixLength) =
      self.prefix_ := by
    rw [whole]
    exact cut_middle frontLength (by rw [prefixLength]) _
  have behind (start stop : Nat) :
      cut data (5 + prefixBytes self.prefixLength + start)
          (5 + prefixBytes self.prefixLength + stop) =
        cut (beBytes 4 self.forwarding ++ (beBytes 4 self.tag ++ []))
          start stop := by
    have upTo : (front ++ self.prefix_).length =
        5 + prefixBytes self.prefixLength := by
      rw [List.length_append, frontLength, prefixLength]
    rw [whole, cut_behind upTo (by omega), Nat.add_sub_cancel_left,
      Nat.add_sub_cancel_left]
  refine ⟨data, ?_, length, ?_⟩
  · unfold bytes
    rw [byteOf_ok fits.flags, ok_bind, packMetric_ok fits.metric, ok_bind,
      byteOf_ok fits.prefixLength, ok_bind, packBe_ok fits.forwarding, ok_bind,
      packBe_ok fits.tag, ok_bind, data_eq]
    simp only [List.append_assoc, List.append_nil]
  · have flagsRead : byteAt data 0 = .ok self.flags := by
      rw [data_eq, byteAt_front fits.flags]
    have metricRead : unpackMetric (cut data 1 4) = .ok self.metric := by
      rw [data_eq, cut_behind flags (by decide), cut_front metric,
        unpackMetric_beBytes fits.metric]
    have plenRead : byteAt data 4 = .ok self.prefixLength := by
      rw [data_eq, byteAt_behind flags (by decide),
        byteAt_behind metric (by decide), byteAt_front fits.prefixLength]
    have enough : data.length ≥ 5 + prefixBytes self.prefixLength + 8 := by
      omega
    have forwardingCut := behind 0 4
    have tagCut := behind 4 8
    rw [cut_front forwarding, Nat.add_zero] at forwardingCut
    rw [cut_behind forwarding (by decide), cut_front tag] at tagCut
    unfold unpack
    rw [flagsRead, ok_bind, metricRead, ok_bind, plenRead, ok_bind]
    dsimp only
    rw [if_pos enough, forwardingCut, unpackBe_beBytes fits.forwarding, ok_bind,
      tagCut, unpackBe_beBytes fits.tag, ok_bind, prefixCut]

theorem LSALink.read_back {self : LSALink} (fits : self.InRange) :
    ReadBack self.bytes unpack (5 + self.prefix_.length) self := by
  have priority := beBytes_length 1 self.routerPriority
  have optsLength := fits.opts
  have plen := beBytes_length 1 self.prefixLength
  refine ⟨beBytes 1 self.routerPriority ++ (self.opts ++
    (beBytes 1 self.prefixLength ++ self.prefix_)), ?_, ?_, ?_⟩
  · unfold bytes
    rw [byteOf_ok fits.routerPriority, ok_bind, byteOf_ok fits.prefixLength,
      ok_bind, List.append_assoc, List.append_assoc]
  · simp only [List.length_append, priority, optsLength, plen]
    omega
  · unfold unpack
    rw [byteAt_front fits.routerPriority, ok_bind,
      byteAt_behind priority (by decide), byteAt_behind optsLength (by decide),
      byteAt_front fits.prefixLength, ok_bind,
      cut_behind priority (by decide), cut_front optsLength,
      cut_behind priority (by decide), cut_behind optsLength (by decide),
      cut_behind plen (by decide)]
    exact congrArg (fun p => Except.ok (LSALink.mk _ _ _ p))
      (prefix_alone fits.prefix_ 5)

theorem AreaPrefix.bytes_ok {self : AreaPrefix} (fits : self.InRange) :
    self.bytes = .ok (UInt8.ofNat self.prefixLength :: self.prefix_) := by
  unfold bytes
  rw [byteOf_ok fits.prefixLength]
  rfl

theorem prefixesUpTo_bytes {prefixes : List AreaPrefix}
    (fits : ∀ p ∈ prefixes, p.InRange) :
    prefixesUpTo prefixes.length (prefixes.map fun p =>
      UInt8.ofNat p.prefixLength :: p.prefix_).flatten = prefixes := by
  induction prefixes with
  | nil => rfl
  | cons p rest ih =>
      obtain ⟨here, behind⟩ := List.forall_mem_cons.mp fits
      have plen := count_toNat here.prefixLength
      rw [List.length_cons, List.map_cons, List.flatten_cons, List.cons_append,
        prefixesUpTo, plen, List.take_left' here.prefix_,
        List.drop_left' here.prefix_, ih behind]

theorem LSAIntraAreaPrefix.read_back {self : LSAIntraAreaPrefix}
    (fits : self.InRange) (few : self.prefixes.length < 256 ^ 2) :
    ReadBack self.bytes unpack
      (12 + (self.prefixes.map fun p => 1 + p.prefix_.length).sum)
      { self with lsaCount := self.prefixes.length } := by
  have count := beBytes_length 2 self.prefixes.length
  have refType := beBytes_length 2 self.refType
  have refId := beBytes_length 4 self.refId
  have refAdvRouter := beBytes_length 4 self.refAdvRouter
  have prefixes := prefixesUpTo_bytes fits.prefixes
  have startFits : FieldsFit
      [(2, self.prefixes.length), (2, self.refType), (4, self.refId),
        (4, self.refAdvRouter)] := by
    simp only [fieldsFit_cons, fieldsFit_nil, and_true]
    exact ⟨few, fits.refType, fits.refId, fits.refAdvRouter⟩
  have joined : joinBytes AreaPrefix.bytes self.prefixes =
      .ok (self.prefixes.map fun p =>
        UInt8.ofNat p.prefixLength :: p.prefix_).flatten := by
    apply joinBytes_chunks
    rw [List.forall₂_map_left_iff, List.forall₂_same]
    exact fun p member => AreaPrefix.bytes_ok (fits.prefixes p member)
  refine ⟨beBytes 2 self.prefixes.length ++ (beBytes 2 self.refType ++
    (beBytes 4 self.refId ++ (beBytes 4 self.refAdvRouter ++
      (self.prefixes.map fun p =>
        UInt8.ofNat p.prefixLength :: p.prefix_).flatten))), ?_, ?_, ?_⟩
  · unfold bytes
    rw [ByteOrder.big.pack_ok startFits, ok_bind, joined, ok_bind]
    simp only [ByteOrder.fieldBytes_cons, ByteOrder.arrange, List.append_assoc]
    rfl
  · simp only [List.length_append, count, refType, refId, refAdvRouter,
      List.length_flatten, List.map_map, Function.comp_def, List.length_cons]
    rw [List.map_congr_left fun p _member => Nat.add_comm p.prefix_.length 1]
    omega
  · unfold unpack
    rw [cut_front count, unpackBe_beBytes few, ok_bind,
      cut_behind count (by decide), cut_front refType,
      unpackBe_beBytes fits.refType, ok_bind,
      cut_behind count (by decide), cut_behind refType (by decide),
      cut_front refId, unpackBe_beBytes fits.refId, ok_bind,
      cut_behind count (by decide), cut_behind refType (by decide),
      cut_behind refId (by decide), cut_front refAdvRouter,
      unpackBe_beBytes fits.refAdvRouter, ok_bind,
      drop_behind count (by decide), drop_behind refType (by decide),
      drop_behind refId (by decide), drop_behind refAdvRouter (by decide)]
    exact congrArg (fun prefixes => Except.ok (LSAIntraAreaPrefix.mk _ _ _ _
      prefixes)) prefixes

/-! ### LSAs -/

/-- The type that the class of the contents is registered for; the class of the
header alone is for all others. -/
def LsaBody.HasType (type : Nat) : LsaBody → Prop
  | .header _ => type ∉ lsaSw.map Prod.fst
  | .router _ => type = 0x2001
  | .network _ => type = 0x2002
  | .interAreaPrefix _ => type = 0x2003
  | .interAreaRouter _ => type = 0x2004
  | .asExternal _ => type = 0x4005
  | .nssa _ => type = 0x2007
  | .link _ => type = 0x0008
  | .intraAreaPrefix _ => type = 0x2009

/-- The number of prefixes is counted anew. -/
def LsaBody.counted : LsaBody → LsaBody
  | .intraAreaPrefix body =>
      .intraAreaPrefix { body with lsaCount := body.prefixes.length }
  | body => body

/-- The LSA with its own length in the header. -/
def Lsa.sized (self : Lsa) : Lsa where
  header := { self.header with len := self.length }
  body := self.body.counted

theorem ReadBack.map {β γ : Type} {bytes : Except PyError Bytes}
    {unpack : Bytes → Except PyError β} {length : Nat} {result : β}
    (back : ReadBack bytes unpack length result) (f : β → γ) :
    ReadBack bytes (fun data => do .ok (f (← unpack data))) length
      (f result) := by
  obtain ⟨data, written, sized, read⟩ := back
  refine ⟨data, written, sized, ?_⟩
  dsimp only
  rw [read, ok_bind]

theorem LsaBody.read_back {type : Nat} {self : LsaBody}
    (typed : self.HasType type) (fits : self.InRange)
    (small : self.length < 256 ^ 2) :
    ReadBack self.bytes ((lsaSw.lookup type).getD headerClass).unpackBody
      self.length self.counted := by
  cases self with
  | header data =>
      have unknown : lsaSw.lookup type = none := by
        rw [List.lookup_eq_none_iff]
        intro entry member
        rw [bne_iff_ne]
        rintro rfl
        exact typed (List.mem_map_of_mem member)
      rw [unknown]
      exact ⟨data, rfl, rfl, rfl⟩
  | router body =>
      rw [show type = _ from typed]
      exact (LSARouterV3.read_back fits).map LsaBody.router
  | network body =>
      rw [show type = _ from typed]
      exact (LSANetworkV3.read_back fits).map LsaBody.network
  | interAreaPrefix body =>
      rw [show type = _ from typed]
      exact (LSAInterAreaPrefix.read_back fits).map LsaBody.interAreaPrefix
  | interAreaRouter body =>
      rw [show type = _ from typed]
      exact (LSAInterAreaRouter.read_back fits).map LsaBody.interAreaRouter
  | asExternal body =>
      rw [show type = _ from typed]
      exact (LSAASExternalV3.read_back fits).map LsaBody.asExternal
  | nssa body =>
      rw [show type = _ from typed]
      exact (LSAASExternalV3.read_back fits).map LsaBody.nssa
  | link body =>
      rw [show type = _ from typed]
      exact (LSALink.read_back fits).map LsaBody.link
  | intraAreaPrefix body =>
      have count := List.length_le_sum_of_one_le
        (body.prefixes.map fun p => 1 + p.prefix_.length) (by
          intro size member
          obtain ⟨p, _member, rfl⟩ := List.mem_map.mp member
          exact Nat.le_add_right 1 _)
      rw [List.length_map] at count
      change 12 + _ < 256 ^ 2 at small
      have few : body.prefixes.length < 256 ^ 2 := by omega
      rw [show type = _ from typed]
      exact (LSAIntraAreaPrefix.read_back fits few).map LsaBody.intraAreaPrefix

/-- An LSA with its registered type and fields in range, below 65536 bytes; one
of a type that is not registered says its own length. -/
structure SentLsa where
  lsa : Lsa
  headerFits : FieldsFit
    [(2, lsa.header.age), (2, lsa.header.typeField), (4, lsa.header.id),
      (4, lsa.header.advRouter), (4, lsa.header.seq), (2, lsa.header.sum)]
  typed : lsa.body.HasType lsa.header.typeField
  inRange : lsa.body.InRange
  small : lsa.length < 256 ^ 2
  ownLen : ∀ data, lsa.body = .header data → lsa.header.len = lsa.length

namespace SentLsa

variable (sent : SentLsa)

theorem header_fits : LSAv3Header.format.Fits sent.lsa.sized.header := by
  have small := sent.small
  have fits := sent.headerFits
  unfold RecordFormat.Fits LSAv3Header.format Lsa.sized
  simp only [fieldsFit_cons, fieldsFit_nil, and_true] at fits ⊢
  obtain ⟨age, type, id, adv, seq, sum⟩ := fits
  exact ⟨age, type, id, adv, seq, sum, small⟩

theorem header_length :
    (LSAv3Header.format.bytes .big sent.lsa.sized.header).length = 20 :=
  LSAv3Header.format.bytes_length _ _

theorem header_bytes :
    LSAv3Header.format.bytes .big sent.lsa.sized.header =
      beBytes 2 sent.lsa.header.age ++ (beBytes 2 sent.lsa.header.typeField ++
        (beBytes 4 sent.lsa.header.id ++
          (beBytes 4 sent.lsa.header.advRouter ++
            (beBytes 4 sent.lsa.header.seq ++ (beBytes 2 sent.lsa.header.sum ++
              (beBytes 2 sent.lsa.length ++ [])))))) := rfl

theorem len_field {data : Bytes} (length : data.length = sent.lsa.body.length) :
    sent.lsa.body.lenField sent.lsa.header.len data = sent.lsa.length := by
  have own := sent.ownLen
  unfold LsaBody.lenField
  split
  · rename_i data contents
    exact own data contents
  · rw [length]
    rfl

theorem read_back :
    ∃ lsaBuf, sent.lsa.bytes = .ok lsaBuf ∧ LinkStateUpdate.Framed lsaBuf ∧
      LinkStateUpdate.parseLsa lsaClasses lsaBuf = .ok sent.lsa.sized := by
  have bodySmall : sent.lsa.body.length < 256 ^ 2 := by
    have small := sent.small
    unfold Lsa.length at small
    omega
  have typeFits : sent.lsa.header.typeField < 256 ^ 2 :=
    sent.headerFits (2, _) (by simp)
  obtain ⟨data, written, length, read⟩ :=
    LsaBody.read_back sent.typed sent.inRange bodySmall
  have total : (LSAv3Header.format.bytes .big sent.lsa.sized.header ++
      data).length = sent.lsa.length := by
    rw [List.length_append, sent.header_length, length]
    rfl
  refine ⟨LSAv3Header.format.bytes .big sent.lsa.sized.header ++ data,
    ?_, ⟨?_, ?_, ?_⟩, ?_⟩
  · unfold Lsa.bytes
    rw [written, ok_bind]
    dsimp only
    rw [sent.len_field length]
    change (ByteOrder.big.packHdr
      (LSAv3Header.format.fields sent.lsa.sized.header) >>= _) = _
    rw [ByteOrder.big.packHdr_ok sent.header_fits, ok_bind]
    rfl
  · rw [List.length_append, sent.header_length]
    omega
  · rw [total]
    exact sent.small
  · rw [total, sent.header_bytes]
    simp only [List.append_assoc, List.nil_append]
    rw [cut_behind (beBytes_length 2 _) (by decide),
      cut_behind (beBytes_length 2 _) (by decide),
      cut_behind (beBytes_length 4 _) (by decide),
      cut_behind (beBytes_length 4 _) (by decide),
      cut_behind (beBytes_length 4 _) (by decide),
      cut_behind (beBytes_length 2 _) (by decide)]
    exact cut_front (beBytes_length 2 _) _
  · have type : cut (LSAv3Header.format.bytes .big sent.lsa.sized.header ++ data)
        2 4 = beBytes 2 sent.lsa.header.typeField := by
      rw [sent.header_bytes, List.append_assoc,
        cut_behind (beBytes_length 2 _) (by decide), List.append_assoc]
      exact cut_front (beBytes_length 2 _) _
    have constructed : lsaClasses.construct sent.lsa.header.typeField
        (LSAv3Header.format.bytes .big sent.lsa.sized.header ++ data) =
        .ok sent.lsa.sized := by
      change LsaClass.parse ((lsaSw.lookup _).getD headerClass) _ = _
      refine packetInit_eq_ok.mpr ?_
      rw [unpackLsa_bytes sent.header_fits, read, ok_bind]
      rfl
    unfold LinkStateUpdate.parseLsa
    change (unpackBe 2 (cut _ 2 4) >>= _) = _
    rw [type, unpackBe_beBytes typeFits, ok_bind, constructed]

end SentLsa

/-! ### Updates -/

/-- As many LSAs as the count in front of them can say. -/
structure SentUpdate where
  lsas : List SentLsa
  few : lsas.length < 256 ^ 4

/-- The bytes of an update are parsed as its LSAs: only the length in each
header, and the number of prefixes, are those that were written. -/
theorem lsu_round_trip (update : SentUpdate) (lsaCount : Nat) :
    ∃ buf, OSPFv3LSU.bytes
        { lsaCount, lsas := update.lsas.map SentLsa.lsa } = .ok buf ∧
      OSPFv3LSU.parse buf =
        .ok
          { lsaCount := update.lsas.length
            lsas := update.lsas.map fun sent => sent.lsa.sized } := by
  choose encode written framed parsed using SentLsa.read_back
  have joined : joinBytes Lsa.bytes (update.lsas.map SentLsa.lsa) =
      .ok (update.lsas.map encode).flatten := by
    apply joinBytes_chunks
    rw [List.forall₂_map_left_iff, List.forall₂_map_right_iff,
      List.forall₂_same]
    exact fun sent _member => written sent
  have allFramed : ∀ lsaBuf ∈ update.lsas.map encode,
      LinkStateUpdate.Framed lsaBuf := by
    intro lsaBuf member
    obtain ⟨sent, _member, rfl⟩ := List.mem_map.mp member
    exact framed sent
  have few := update.few
  refine ⟨beBytes 4 (update.lsas.map encode).length ++
    (update.lsas.map encode).flatten, ?_, ?_⟩
  · unfold OSPFv3LSU.bytes LinkStateUpdate.bytes
    dsimp only
    rw [List.length_map, packBe_ok few, ok_bind]
    change (joinBytes Lsa.bytes _ >>= _) = _
    rw [joined, ok_bind, List.length_map]
  · rw [← List.length_map encode] at few
    refine (LinkStateUpdate.parse_framed few allFramed "OSPFv3LSU").mpr ⟨?_, ?_⟩
    · exact (List.length_map encode).symm
    · rw [List.forall₂_map_left_iff, List.forall₂_map_right_iff,
        List.forall₂_same]
      exact fun sent _member => parsed sent

/-- An LSA without prefixes whose object counts one. -/
def areaPrefixes : SentLsa where
  lsa :=
    { header :=
        { age := 1
          typeField := 0x2009
          id := 0
          advRouter := 0x0a000001
          seq := 0x80000001
          sum := 0
          len := 32 }
      body := .intraAreaPrefix
        { lsaCount := 1
          refType := 0x2001
          refId := 0
          refAdvRouter := 0x0a000001
          prefixes := [] } }
  headerFits := by decide
  typed := rfl
  inRange := ⟨by decide, by decide, by decide, List.forall_mem_nil _⟩
  small := by decide
  ownLen _ impossible := nomatch impossible

/-- Its count comes back as zero, and a list that is too long for the count of
an update is not written at all. -/
theorem areaPrefixes_counted :
    (∃ buf lsu,
      OSPFv3LSU.bytes { lsaCount := 1, lsas := [areaPrefixes.lsa] } = .ok buf ∧
        OSPFv3LSU.parse buf = .ok lsu ∧
        lsu.lsas.map Ospf.Lsa.body ≠ [areaPrefixes.lsa.body]) ∧
      OSPFv3LSU.bytes
        { lsaCount := 1
          lsas := (List.replicate (256 ^ 4) areaPrefixes).map SentLsa.lsa } =
        .error .structError := by
  constructor
  · refine ⟨[0, 0, 0, 1, 0, 1, 0x20, 9, 0, 0, 0, 0, 10, 0, 0, 1, 0x80, 0, 0, 1,
        0, 0, 0, 32, 0, 0, 0x20, 1, 0, 0, 0, 0, 10, 0, 0, 1],
      { lsaCount := 1, lsas := [areaPrefixes.lsa.sized] },
      by decide +kernel, by decide +kernel, by decide⟩
  · have many : ¬256 ^ 4 < 256 ^ 4 := Nat.lt_irrefl _
    unfold OSPFv3LSU.bytes LinkStateUpdate.bytes packBe
    dsimp only
    rw [List.length_map, List.length_replicate, if_neg many]
    rfl

end DpktNg.Ospf.V3
