/-
What `OSPFv2LSU` makes of encoded LSAs, and what it writes again.
-/

import DpktNg.Ospf.Version2

namespace DpktNg.Ospf.V2

open Library

/-! ### Writing -/

namespace SentBody

/-- The fields that `__bytes__` writes of the decoded contents. -/
def kept : SentBody → List (Nat × Nat)
  | router flags links =>
      [(1, flags), (1, 0), (2, links.length)] ++
        (links.map SentLink.decoded).flatMap RouterLink.format.fields
  | network mask routers =>
      (4, mask) :: routers.flatMap addressFormat.fields
  | summaryIP mask metric _ => [(4, mask), (3, metric)]
  | summaryASBR mask metric _ => [(4, mask), (3, metric)]
  | asExternal mask flags metric forwarding tag _ =>
      [(4, mask), (1, flags), (3, metric), (4, forwarding), (4, tag)]

/-- How many bytes it leaves out. -/
def dropped : SentBody → Nat
  | router _ links => (links.map fun link => 4 * link.tosMetrics.length).sum
  | network _ _ => 0
  | summaryIP _ _ tosMetrics => 1 + 4 * tosMetrics.length
  | summaryASBR _ _ tosMetrics => 1 + 4 * tosMetrics.length
  | asExternal _ _ _ _ _ tosMetrics => 12 * tosMetrics.length

def keptSize (body : SentBody) : Nat := (body.kept.map Prod.fst).sum

end SentBody

theorem flatMap_size {α : Type} (fields : α → List (Nat × Nat))
    (size : α → Nat)
    (sized : ∀ item, ((fields item).map Prod.fst).sum = size item)
    (items : List α) :
    ((items.flatMap fields).map Prod.fst).sum = (items.map size).sum := by
  induction items with
  | nil => rfl
  | cons item rest ih =>
      rw [List.flatMap_cons, List.map_append, List.sum_append, sized, ih,
        List.map_cons, List.sum_cons]

theorem flatMap_size_const {α : Type} (fields : α → List (Nat × Nat))
    (size : Nat) (sized : ∀ item, ((fields item).map Prod.fst).sum = size)
    (items : List α) :
    ((items.flatMap fields).map Prod.fst).sum = size * items.length := by
  rw [flatMap_size fields (fun _ => size) sized, List.map_const',
    List.sum_replicate, smul_eq_mul, mul_comm]

namespace SentBody

theorem link_size (link : SentLink) :
    (link.fields.map Prod.fst).sum = 12 + 4 * link.tosMetrics.length := by
  unfold SentLink.fields
  rw [List.map_append, List.sum_append,
    flatMap_size_const _ 4 (fun _ => rfl)]
  rfl

theorem summary_size (mask metric : Nat) (tosMetrics : List (Nat × Nat)) :
    (((4, mask) :: summaryFields metric tosMetrics).map Prod.fst).sum =
      7 + (1 + 4 * tosMetrics.length) := by
  unfold summaryFields
  rw [List.map_cons, List.sum_cons, List.map_append, List.sum_append,
    flatMap_size_const _ 4 (fun _ => rfl)]
  change 4 + (4 + _) = _
  omega

theorem size_eq (body : SentBody) : body.size = body.keptSize + body.dropped := by
  unfold size keptSize
  cases body with
  | router flags links =>
      unfold fields kept dropped
      rw [List.map_append, List.sum_append, List.map_append, List.sum_append,
        flatMap_size _ _ link_size, flatMap_size_const _ 12 (fun _ => rfl),
        List.sum_map_add, List.map_const', List.sum_replicate, smul_eq_mul,
        List.length_map, mul_comm, Nat.add_assoc]
  | network mask routers => rfl
  | summaryIP mask metric tosMetrics => exact summary_size mask metric tosMetrics
  | summaryASBR mask metric tosMetrics =>
      exact summary_size mask metric tosMetrics
  | asExternal mask flags metric forwarding tag tosMetrics =>
      unfold fields kept dropped
      rw [List.map_append, List.sum_append,
        flatMap_size_const _ 12 (fun _ => rfl)]

theorem plain_of_dropped {body : SentBody} (none : body.dropped = 0) :
    body.Plain := by
  unfold dropped at none
  cases body with
  | router flags links =>
      intro link member
      have zero := List.sum_eq_zero_iff_forall_eq_nat.mp none _
        (List.mem_map_of_mem member)
      exact List.eq_nil_of_length_eq_zero (by omega)
  | network mask routers => trivial
  | summaryIP mask metric tosMetrics =>
      dsimp only at none
      omega
  | summaryASBR mask metric tosMetrics =>
      dsimp only at none
      omega
  | asExternal mask flags metric forwarding tag tosMetrics =>
      dsimp only at none
      exact List.eq_nil_of_length_eq_zero (by omega)

theorem kept_of_plain {body : SentBody} (plain : body.Plain) :
    body.kept = body.fields := by
  cases body with
  | router flags links =>
      rw [kept, fields, List.flatMap_map]
      congr 1
      apply List.flatMap_congr
      intro link member
      have none := plain link member
      unfold SentLink.fields SentLink.decoded RouterLink.format
      dsimp only
      rw [none]
      rfl
  | network mask routers => rfl
  | summaryIP mask metric tosMetrics => exact plain.elim
  | summaryASBR mask metric tosMetrics => exact plain.elim
  | asExternal mask flags metric forwarding tag tosMetrics =>
      unfold kept fields
      rw [show tosMetrics = [] from plain]
      rfl

end SentBody

theorem SentLink.decoded_fits {links : List SentLink}
    (fits : FieldsFit (links.flatMap SentLink.fields)) :
    ∀ link ∈ links.map SentLink.decoded, RouterLink.format.Fits link := by
  intro link member
  obtain ⟨sent, here, rfl⟩ := List.mem_map.mp member
  have whole : FieldsFit sent.fields := List.forall_mem_flatMap.mp fits sent here
  exact (fieldsFit_append.mp whole).1

theorem SentBody.summary_bytes {mask metric : Nat}
    {tosMetrics : List (Nat × Nat)}
    (fits : FieldsFit ((4, mask) :: summaryFields metric tosMetrics)) :
    LSASummaryIP.bytes { mask, metric } =
      .ok (ByteOrder.big.fieldBytes [(4, mask), (3, metric)]) := by
  obtain ⟨first, behind⟩ := fieldsFit_cons.mp fits
  obtain ⟨start, _tos⟩ := fieldsFit_append.mp behind
  have metricFits := start (3, metric) (by simp)
  unfold LSASummaryIP.bytes
  dsimp only
  rw [packBe_ok first, ok_bind, packMetric_ok metricFits, ok_bind]
  rfl

theorem SentBody.external_bytes {mask flags metric forwarding tag : Nat}
    (fits : FieldsFit
      [(4, mask), (1, flags), (3, metric), (4, forwarding), (4, tag)]) :
    LSAASExternal.bytes
        { mask, flags, metric, forwarding, tag, prefix_ := [] } =
      .ok (ByteOrder.big.fieldBytes
        [(4, mask), (1, flags), (3, metric), (4, forwarding), (4, tag)]) := by
  simp only [fieldsFit_cons, fieldsFit_nil, and_true] at fits
  obtain ⟨maskFits, flagsFit, metricFits, forwardingFits, tagFits⟩ := fits
  have wide : metric < 256 ^ 4 := by omega
  unfold LSAASExternal.bytes
  dsimp only
  rw [packBe_ok maskFits, ok_bind, byteOf_ok flagsFit, ok_bind,
    packBe_ok wide, ok_bind, packBe_ok forwardingFits, ok_bind,
    packBe_ok tagFits, ok_bind, beBytes_drop_one metricFits]
  simp only [List.append_assoc, List.nil_append]
  rfl

theorem SentBody.decoded_bytes {body : SentBody} (fits : FieldsFit body.fields) :
    body.decoded.bytes = .ok (ByteOrder.big.fieldBytes body.kept) := by
  cases body with
  | router flags links =>
      obtain ⟨start, behind⟩ := fieldsFit_append.mp fits
      have packed := ByteOrder.big.pack_ok start
      change LSARouter.bytes _ = _
      unfold LSARouter.bytes kept
      dsimp only
      rw [List.length_map, packed, ok_bind,
        RecordFormat.packAll_ok (SentLink.decoded_fits behind), ok_bind,
        ByteOrder.fieldBytes_append, RecordFormat.fieldBytes_flatMap]
  | network mask routers =>
      obtain ⟨first, behind⟩ := fieldsFit_cons.mp fits
      change LSANetwork.bytes _ = _
      unfold LSANetwork.bytes kept
      dsimp only
      rw [packBe_ok first, ok_bind, RecordFormat.packAll_ok
        (RecordFormat.fieldsFit_flatMap.mp behind), ok_bind,
        ByteOrder.fieldBytes_cons, RecordFormat.fieldBytes_flatMap]
      rfl
  | summaryIP mask metric tosMetrics => exact summary_bytes fits
  | summaryASBR mask metric tosMetrics => exact summary_bytes fits
  | asExternal mask flags metric forwarding tag tosMetrics =>
      exact external_bytes (fieldsFit_append.mp fits).1

/-! ### Reading -/

theorem LSARouter.unpack_kept {flags : Nat} {links : List SentLink}
    (fits : FieldsFit (SentBody.router flags links).fields) :
    LSARouter.unpack
        (ByteOrder.big.fieldBytes (SentBody.router flags links).kept) =
      .ok { flags, links := links.map SentLink.decoded } := by
  obtain ⟨start, behind⟩ := fieldsFit_append.mp fits
  have length : (ByteOrder.big.fieldBytes
      [(1, flags), (1, 0), (2, links.length)]).length = 4 :=
    ByteOrder.fieldBytes_length _ _
  have values : ByteOrder.big.unpack [1, 1, 2] (ByteOrder.big.fieldBytes
      [(1, flags), (1, 0), (2, links.length)]) =
      .ok [flags, 0, links.length] :=
    ByteOrder.big.unpack_fieldBytes start
  have found := RecordFormat.read_recordsUpTo .big
    (SentLink.decoded_fits behind) []
  rw [List.length_map, List.append_nil] at found
  rw [SentBody.kept, ByteOrder.fieldBytes_append,
    RecordFormat.fieldBytes_flatMap]
  unfold LSARouter.unpack
  rw [List.take_left' length, List.drop_left' length, values, ok_bind]
  exact congrArg (fun links => Except.ok (LSARouter.mk flags links)) found

theorem LSANetwork.unpack_kept {mask : Nat} {routers : List Nat}
    (fits : FieldsFit (SentBody.network mask routers).fields) :
    LSANetwork.unpack
        (ByteOrder.big.fieldBytes (SentBody.network mask routers).kept) =
      .ok { mask, routers } := by
  obtain ⟨first, behind⟩ := fieldsFit_cons.mp fits
  have length := beBytes_length 4 mask
  have found := RecordFormat.read_recordsOf .big addressFormat_size
    (RecordFormat.fieldsFit_flatMap.mp behind) [] (by decide)
  rw [List.append_nil] at found
  rw [SentBody.kept, ByteOrder.fieldBytes_cons,
    RecordFormat.fieldBytes_flatMap]
  unfold LSANetwork.unpack
  change (unpackBe 4 ((beBytes 4 mask ++ _).take 4) >>= _) = _
  rw [List.take_left' length, unpackBe_beBytes first, ok_bind]
  change Except.ok (LSANetwork.mk mask (List.map _ (recordsOf _
    ((beBytes 4 mask ++ _).drop 4)))) = _
  rw [List.drop_left' length, found]

theorem LSAASExternal.unpack_kept {mask flags metric forwarding tag : Nat}
    (fits : FieldsFit
      [(4, mask), (1, flags), (3, metric), (4, forwarding), (4, tag)]) :
    LSAASExternal.unpack (ByteOrder.big.fieldBytes
        [(4, mask), (1, flags), (3, metric), (4, forwarding), (4, tag)]) =
      .ok { mask, flags, metric, forwarding, tag, prefix_ := [] } := by
  have length := ByteOrder.big.fieldBytes_length
    [(4, mask), (1, flags), (3, metric), (4, forwarding), (4, tag)]
  have bytes : ByteOrder.big.fieldBytes
      [(4, mask), (1, flags), (3, metric), (4, forwarding), (4, tag)] =
      beBytes 4 mask ++ (beBytes 1 flags ++ (beBytes 3 metric ++
        (beBytes 4 forwarding ++ (beBytes 4 tag ++ [])))) := rfl
  simp only [fieldsFit_cons, fieldsFit_nil, and_true] at fits
  obtain ⟨maskFits, flagsFit, metricFits, forwardingFits, tagFits⟩ := fits
  unfold LSAASExternal.unpack
  rw [bytes] at length ⊢
  have long : _ ≥ 16 := length.ge
  rw [List.take_left' (beBytes_length 4 mask), unpackBe_beBytes maskFits,
    ok_bind]
  rw [byteAt_behind (beBytes_length 4 mask) (by decide), byteAt_front flagsFit,
    ok_bind]
  iterate 3 rw [cut_behind (beBytes_length 4 mask) (by decide),
    cut_behind (beBytes_length 1 flags) (by decide)]
  rw [cut_front (beBytes_length 3 metric), unpackMetric_beBytes metricFits,
    ok_bind, if_pos long]
  iterate 2 rw [cut_behind (beBytes_length 3 metric) (by decide)]
  rw [cut_front (beBytes_length 4 forwarding),
    unpackBe_beBytes forwardingFits, ok_bind,
    cut_behind (beBytes_length 4 forwarding) (by decide),
    cut_front (beBytes_length 4 tag), unpackBe_beBytes tagFits, ok_bind]

/-- The type that the class of the contents is registered for. -/
def LsaBody.registered : LsaBody → Option Nat
  | .header _ => none
  | .router _ => some 1
  | .network _ => some 2
  | .summaryIP _ => some 3
  | .summaryASBR _ => some 4
  | .asExternal _ => some 5

theorem SentBody.decoded_registered (body : SentBody) :
    body.decoded.registered = some body.type := by
  cases body <;> rfl

theorem LsaClass.parse_eq_ok {cls : LsaClass} {buf : Bytes} {lsa : Lsa}
    (parsed : cls.parse buf = .ok lsa) :
    ∃ data, cls.unpackBody data = .ok lsa.body := by
  have unpacked := packetInit_eq_ok.mp parsed
  obtain ⟨⟨hdr, data⟩, _taken, rest⟩ := bind_eq_ok.mp unpacked
  obtain ⟨body, found, same⟩ := bind_eq_ok.mp rest
  rw [Except.ok.injEq] at same
  rw [← same]
  exact ⟨data, found⟩

/-- Each class makes contents of its own type. -/
theorem lsaSw_registered {type : Nat} {cls : LsaClass}
    (member : (type, cls) ∈ lsaSw) {data : Bytes} {body : LsaBody}
    (found : cls.unpackBody data = .ok body) :
    body.registered = some type := by
  unfold lsaSw at member
  simp only [List.mem_cons, List.not_mem_nil, or_false, Prod.mk.injEq] at member
  rcases member with ⟨rfl, rfl⟩ | ⟨rfl, rfl⟩ | ⟨rfl, rfl⟩ | ⟨rfl, rfl⟩ |
    ⟨rfl, rfl⟩
  all_goals
    obtain ⟨contents, _unpacked, same⟩ := bind_eq_ok.mp found
    rw [Except.ok.injEq] at same
    rw [← same]
    rfl

theorem headerClass_registered {buf : Bytes} {lsa : Lsa}
    (parsed : headerClass.parse buf = .ok lsa) : lsa.body.registered = none := by
  obtain ⟨data, found⟩ := LsaClass.parse_eq_ok parsed
  change Except.ok (LsaBody.header data) = _ at found
  rw [Except.ok.injEq] at found
  rw [← found]
  rfl

theorem construct_registered {type : Nat} {buf : Bytes} {lsa : Lsa}
    (parsed : lsaClasses.construct type buf = .ok lsa) :
    lsa.body.registered = none ∨ lsa.body.registered = some type := by
  change LsaClass.parse ((lsaSw.lookup type).getD headerClass) buf = _ at parsed
  cases registered : lsaSw.lookup type with
  | none =>
      rw [registered] at parsed
      exact .inl (headerClass_registered parsed)
  | some cls =>
      rw [registered] at parsed
      obtain ⟨data, found⟩ := LsaClass.parse_eq_ok parsed
      obtain ⟨before, behind, same, _first⟩ :=
        List.lookup_eq_some_iff.mp registered
      have member : (type, cls) ∈ lsaSw := by
        rw [same]
        exact List.mem_append_right _ List.mem_cons_self
      exact .inr (lsaSw_registered member found)

theorem SentBody.unpack_plain {body : SentBody} (fits : FieldsFit body.fields)
    (plain : body.Plain) :
    ((lsaSw.lookup body.type).getD headerClass).unpackBody
        (ByteOrder.big.fieldBytes body.fields) = .ok body.decoded := by
  rw [← SentBody.kept_of_plain plain]
  cases body with
  | router flags links =>
      change (LSARouter.unpack _ >>= _) = _
      rw [LSARouter.unpack_kept fits]
      rfl
  | network mask routers =>
      change (LSANetwork.unpack _ >>= _) = _
      rw [LSANetwork.unpack_kept fits]
      rfl
  | summaryIP mask metric tosMetrics => exact plain.elim
  | summaryASBR mask metric tosMetrics => exact plain.elim
  | asExternal mask flags metric forwarding tag tosMetrics =>
      change (LSAASExternal.unpack _ >>= _) = _
      rw [SentBody.kept, LSAASExternal.unpack_kept (fieldsFit_append.mp fits).1]
      rfl

theorem construct_plain {lsa : SentLsa} (plain : lsa.body.Plain) :
    lsaClasses.construct lsa.body.type lsa.bytes = .ok lsa.decoded := by
  change LsaClass.parse ((lsaSw.lookup _).getD headerClass) _ = _
  refine packetInit_eq_ok.mpr ?_
  unfold SentLsa.bytes
  rw [unpackLsa_bytes lsa.header_fits,
    SentBody.unpack_plain lsa.bodyFits plain, ok_bind]
  rfl

theorem parseLsa_registered {lsa : SentLsa} {parsed : Lsa}
    (found : LinkStateUpdate.parseLsa lsaClasses lsa.bytes = .ok parsed) :
    parsed.body.registered = none ∨ parsed.body.registered = some lsa.opts := by
  have type := lsa.read_type
  unfold LinkStateUpdate.parseLsa at found
  change (unpackBe 1 (cut lsa.bytes 2 3) >>= _) = _ at found
  rw [type, ok_bind] at found
  split at found
  · rename_i constructed
    rw [Except.ok.injEq] at found
    rw [← found]
    exact construct_registered constructed
  · split at found
    · change headerClass.parse lsa.bytes = _ at found
      exact .inl (headerClass_registered found)
    · cases found

theorem parseLsa_plain {lsa : SentLsa} (typed : lsa.opts = lsa.body.type)
    (plain : lsa.body.Plain) :
    LinkStateUpdate.parseLsa lsaClasses lsa.bytes = .ok lsa.decoded := by
  have type := lsa.read_type
  unfold LinkStateUpdate.parseLsa
  change (unpackBe 1 (cut lsa.bytes 2 3) >>= _) = _
  rw [type, ok_bind, typed, construct_plain plain]

/-- The bytes that are written of what should be held. -/
def SentLsa.written (lsa : SentLsa) : Bytes :=
  LSAv2Header.format.bytes .big lsa.header ++
    ByteOrder.big.fieldBytes lsa.body.kept

theorem SentLsa.decoded_bytes (lsa : SentLsa) :
    lsa.decoded.bytes = .ok lsa.written := by
  change (ByteOrder.big.packHdr (LSAv2Header.format.fields lsa.header) >>= _) = _
  rw [ByteOrder.big.packHdr_ok lsa.header_fits, ok_bind]
  change (lsa.body.decoded.bytes >>= _) = _
  rw [SentBody.decoded_bytes lsa.bodyFits, ok_bind]
  rfl

theorem SentLsa.written_length (lsa : SentLsa) :
    lsa.bytes.length = lsa.written.length + lsa.body.dropped := by
  have sizes := lsa.body.size_eq
  have header := lsa.header_length
  rw [lsa.bytes_length]
  unfold SentLsa.written
  rw [List.length_append, ByteOrder.fieldBytes_length, header]
  unfold SentBody.keptSize at sizes
  omega

theorem SentLsa.written_plain {lsa : SentLsa} (plain : lsa.body.Plain) :
    lsa.written = lsa.bytes := by
  unfold SentLsa.written SentLsa.bytes
  rw [SentBody.kept_of_plain plain]

/-! ### Updates -/

theorem written_flatten_length (lsas : List SentLsa) :
    (lsas.map SentLsa.bytes).flatten.length =
      (lsas.map SentLsa.written).flatten.length +
        (lsas.map fun lsa => lsa.body.dropped).sum := by
  induction lsas with
  | nil => rfl
  | cons lsa rest ih =>
      have here := lsa.written_length
      rw [List.map_cons, List.map_cons, List.map_cons, List.flatten_cons,
        List.flatten_cons, List.length_append, List.length_append,
        List.sum_cons, ih]
      omega

theorem decoded_update_bytes (update : SentUpdate) (count : Nat) :
    OSPFv2LSU.bytes
        { lsaCount := count, lsas := update.lsas.map SentLsa.decoded } =
      .ok (beBytes 4 update.lsas.length ++
        (update.lsas.map SentLsa.written).flatten) := by
  have joined : joinBytes Lsa.bytes (update.lsas.map SentLsa.decoded) =
      .ok (update.lsas.map SentLsa.written).flatten := by
    apply joinBytes_chunks
    rw [List.forall₂_map_left_iff, List.forall₂_map_right_iff,
      List.forall₂_same]
    exact fun lsa _member => lsa.decoded_bytes
  unfold OSPFv2LSU.bytes LinkStateUpdate.bytes
  dsimp only
  rw [List.length_map, packBe_ok update.few, ok_bind]
  change (joinBytes Lsa.bytes _ >>= _) = _
  rw [joined, ok_bind]

theorem parse_update (update : SentUpdate) {lsu : OSPFv2LSU} :
    OSPFv2LSU.parse update.bytes = .ok lsu ↔
      lsu.lsaCount = update.lsas.length ∧
        List.Forall₂ (fun lsa parsed =>
          LinkStateUpdate.parseLsa lsaClasses lsa.bytes = .ok parsed)
          update.lsas lsu.lsas := by
  have few := update.few
  have framed : ∀ lsaBuf ∈ update.lsas.map SentLsa.bytes,
      LinkStateUpdate.Framed lsaBuf := by
    intro lsaBuf member
    obtain ⟨lsa, _member, rfl⟩ := List.mem_map.mp member
    exact lsa.framed
  rw [← List.length_map SentLsa.bytes] at few
  have parsed := @LinkStateUpdate.parse_framed _ lsaClasses _ few framed
    "OSPFv2LSU" lsu
  rw [List.length_map, List.forall₂_map_left_iff] at parsed
  exact parsed

/-- Every LSA of an encoded update is found with all that it says, and written
again as it was, exactly when the options of each are the number of its type
and none is a summary or has metrics for single types of service. -/
theorem lsas_found_iff (update : SentUpdate) :
    (∃ lsu, OSPFv2LSU.parse update.bytes = .ok lsu ∧
        lsu.lsas = update.lsas.map SentLsa.decoded ∧
        OSPFv2LSU.bytes lsu = .ok update.bytes) ↔
      ∀ lsa ∈ update.lsas, lsa.opts = lsa.body.type ∧ lsa.body.Plain := by
  constructor
  · rintro ⟨⟨count, lsas⟩, parsed, same, written⟩
    dsimp only at same
    rw [same] at parsed written
    obtain ⟨_count, found⟩ := (parse_update update).mp parsed
    rw [List.forall₂_map_right_iff, List.forall₂_same] at found
    rw [decoded_update_bytes, Except.ok.injEq] at written
    unfold SentUpdate.bytes at written
    have lengths := congrArg List.length (List.append_cancel_left written)
    rw [written_flatten_length] at lengths
    have nothing : (update.lsas.map fun lsa => lsa.body.dropped).sum = 0 := by
      omega
    intro lsa member
    constructor
    · have type := parseLsa_registered (found lsa member)
      change lsa.body.decoded.registered = none ∨
        lsa.body.decoded.registered = some lsa.opts at type
      rw [lsa.body.decoded_registered, Option.some.injEq] at type
      rcases type with impossible | type
      · cases impossible
      · exact type.symm
    · exact SentBody.plain_of_dropped
        (List.sum_eq_zero_iff_forall_eq_nat.mp nothing _
          (List.mem_map_of_mem member))
  · intro all
    refine ⟨{ lsaCount := update.lsas.length
              lsas := update.lsas.map SentLsa.decoded }, ?_, rfl, ?_⟩
    · rw [parse_update]
      refine ⟨rfl, ?_⟩
      rw [List.forall₂_map_right_iff, List.forall₂_same]
      exact fun lsa member => parseLsa_plain (all lsa member).1 (all lsa member).2
    · have same : update.lsas.map SentLsa.written =
          update.lsas.map SentLsa.bytes :=
        List.map_congr_left fun lsa member =>
          SentLsa.written_plain (all lsa member).2
      rw [decoded_update_bytes, same]
      rfl

/-- A router with one link, which has set the bit for external routes. -/
def routerLsa : SentLsa where
  age := 1
  opts := 2
  id := 0x0a000001
  advRouter := 0x0a000001
  seq := 0x80000001
  sum := 0x1234
  body := .router 0
    [{ id := 0x0a000002
       data := 0x0a000001
       type := 1
       metric := 10
       tosMetrics := [] }]
  small := by decide
  headerFits := by decide
  bodyFits := by decide

def routerUpdate : SentUpdate where
  lsas := [routerLsa]
  few := by decide

/-- Its options are taken for the type of a network. -/
theorem routerUpdate_network :
    ∃ lsu, OSPFv2LSU.parse routerUpdate.bytes = .ok lsu ∧
      lsu.lsas.map Ospf.Lsa.body = [.network
        { mask := 1, routers := [0x0a000002, 0x0a000001, 0x0100000a] }] ∧
      lsu.lsas ≠ routerUpdate.lsas.map SentLsa.decoded := by
  have network : LSANetwork.unpack
      (ByteOrder.big.fieldBytes routerLsa.body.fields) =
      .ok { mask := 1, routers := [0x0a000002, 0x0a000001, 0x0100000a] } := by
    have same : ByteOrder.big.fieldBytes routerLsa.body.fields =
        ByteOrder.big.fieldBytes (SentBody.network 1
          [0x0a000002, 0x0a000001, 0x0100000a]).kept := by decide +kernel
    rw [same]
    exact LSANetwork.unpack_kept (by decide)
  have constructed : lsaClasses.construct 2 routerLsa.bytes =
      .ok { header := routerLsa.header
            body := .network
              { mask := 1, routers := [0x0a000002, 0x0a000001, 0x0100000a] } } := by
    change networkClass.parse routerLsa.bytes = _
    refine packetInit_eq_ok.mpr ?_
    unfold SentLsa.bytes
    rw [unpackLsa_bytes routerLsa.header_fits]
    change ((LSANetwork.unpack _ >>= _) >>= _) = _
    rw [network]
    rfl
  have found : LinkStateUpdate.parseLsa lsaClasses routerLsa.bytes =
      .ok { header := routerLsa.header
            body := .network
              { mask := 1, routers := [0x0a000002, 0x0a000001, 0x0100000a] } } := by
    have type := routerLsa.read_type
    unfold LinkStateUpdate.parseLsa
    change (unpackBe 1 (cut routerLsa.bytes 2 3) >>= _) = _
    rw [type, ok_bind, show routerLsa.opts = 2 from rfl, constructed]
  refine ⟨{ lsaCount := 1, lsas := [_] },
    (parse_update routerUpdate).mpr ⟨rfl, .cons found .nil⟩, rfl, ?_⟩
  intro same
  have bodies := congrArg (List.map Ospf.Lsa.body) same
  cases bodies

end DpktNg.Ospf.V2
