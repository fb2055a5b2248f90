/-
What the topology builder has recorded after a whole capture: the evidence of
the packets, one after the other.  `build` adds nothing to it, since the
reassembler has handed out every byte before.
-/

import DpktNg.Topology.Evidence

namespace DpktNg.Topology

open DpktNg.Library DpktNg.Stream

namespace TopologyBuilder

/-- What is recorded, without the streams. -/
def recorded (builder : TopologyBuilder) : TopologyBuilder :=
  { builder with bgpStream := none }

theorem recorded_record (builder : TopologyBuilder) (evidence : Evidence) :
    (builder.record evidence).recorded = builder.recorded.record evidence := by
  unfold record
  cases evidence.sender with
  | none => rfl
  | some sender => rfl

theorem processCaptured_recorded (builder : TopologyBuilder)
    (pkt : CapturedPacket) :
    (builder.processCaptured pkt).1.recorded =
      builder.recorded.record pkt.evidence := by
  rw [processCaptured_eq]
  cases fed : pkt.segment with
  | none => exact recorded_record builder pkt.evidence
  | some segment =>
      rw [evidence_segment fed, builder.recorded.record_nothing]
      rfl

theorem run_recorded (builder : TopologyBuilder)
    (packets : List CapturedPacket) :
    (captureMachine.run builder packets).recorded =
      (packets.map CapturedPacket.evidence).foldl record builder.recorded := by
  induction packets generalizing builder with
  | nil => rfl
  | cons pkt rest ih =>
      rw [Machine.run_cons, List.map_cons, List.foldl_cons,
        ← processCaptured_recorded]
      exact ih _

/-! ### Building -/

theorem HandedOut.processCaptured {builder : TopologyBuilder}
    (handedOut : HandedOut builder.bgpStream) (pkt : CapturedPacket) :
    HandedOut (builder.processCaptured pkt).1.bgpStream := by
  rw [processCaptured_eq]
  cases pkt.segment with
  | none =>
      have stream : (builder.record pkt.evidence).bgpStream =
          builder.bgpStream := by
        unfold record
        cases pkt.evidence.sender with
        | none => rfl
        | some sender => rfl
      rw [Option.elim_none, stream]
      exact handedOut
  | some segment => exact handedOut.feedBgpTcp segment

theorem run_handedOut (packets : List CapturedPacket) :
    HandedOut (captureMachine.run {} packets).bgpStream := by
  refine captureMachine.invariant (fun _pkt => True)
    (fun builder => HandedOut builder.bgpStream) ?_ {} handedOut_none packets
    fun _pkt _member => trivial
  intro builder pkt _allowed handedOut
  exact HandedOut.processCaptured handedOut pkt

theorem buildConnection_recorded (builder : TopologyBuilder)
    {connId : ConnId} {conn : Connection} (isRead : conn.IsRead) :
    (buildConnection builder (connId, conn)).recorded = builder.recorded := by
  have c2s : conn.c2s.getData false = (conn.c2s, []) :=
    getData_of_noContiguous (isRead .c2s)
  have s2c : conn.s2c.getData false = (conn.s2c, []) :=
    getData_of_noContiguous (isRead .s2c)
  unfold buildConnection
  dsimp only
  rw [c2s, s2c]
  dsimp only
  rw [extractStream_nil, extractStream_nil]
  rfl

theorem foldl_buildConnection_recorded
    (entries : List (ConnId × Connection)) (builder : TopologyBuilder)
    (isRead : ∀ entry ∈ entries, entry.2.IsRead) :
    (entries.foldl buildConnection builder).recorded = builder.recorded := by
  induction entries generalizing builder with
  | nil => rfl
  | cons entry rest ih =>
      rw [List.foldl_cons, ih _ fun other member =>
        isRead other (List.mem_cons_of_mem entry member)]
      exact buildConnection_recorded builder (isRead entry List.mem_cons_self)

theorem build_recorded {builder : TopologyBuilder}
    (handedOut : HandedOut builder.bgpStream) :
    builder.build.recorded = builder.recorded := by
  unfold build
  split
  · rfl
  · rename_i reasm stream
    exact foldl_buildConnection_recorded _ builder
      (handedOut.isRead reasm stream)

/-- The topology of a capture is its evidence, packet after packet. -/
theorem build_run_recorded (packets : List CapturedPacket) :
    (captureMachine.run {} packets).build.recorded =
      (packets.map CapturedPacket.evidence).foldl record {} := by
  rw [build_recorded (run_handedOut packets), run_recorded]
  rfl

/-! ### Routers -/

/-- A known router that was heard to speak a protocol. -/
def Speaks (builder : TopologyBuilder) (id : PyStr)
    (protocol : RoutingProtocol) : Prop :=
  ∃ router, builder.routers.get? id = some router ∧
    protocol ∈ router.protocols

/-- What `mark` makes of the entry of the sender. -/
def markedRouter (builder : TopologyBuilder) (sender : Sender) : Router :=
  let known := (builder.routers.get? sender.id).getD { id := sender.id }
  { id := known.id
    name := known.name
    asn := if sender.asn = 0 then known.asn else sender.asn
    area := if sender.area = [] then known.area else sender.area
    protocols := known.protocols.insert sender.protocol }

theorem mark_get? (builder : TopologyBuilder) (sender : Sender) (id : PyStr) :
    (builder.mark sender).routers.get? id =
      if id = sender.id then some (builder.markedRouter sender)
      else builder.routers.get? id := by
  unfold mark addProtocol getRouter markedRouter
  dsimp only
  by_cases same : id = sender.id
  · rw [if_pos same, same, Dict.get?_set_same]
    rfl
  · rw [if_neg same, Dict.get?_set_other _ _ same,
      Dict.get?_set_other _ _ same]

theorem mark_speaks (builder : TopologyBuilder) (sender : Sender) (id : PyStr)
    (protocol : RoutingProtocol) :
    (builder.mark sender).Speaks id protocol ↔
      (sender.id = id ∧ sender.protocol = protocol) ∨
        builder.Speaks id protocol := by
  unfold Speaks
  rw [mark_get?]
  by_cases same : id = sender.id
  · rw [if_pos same, same]
    simp only [Option.some.injEq, exists_eq_left', true_and]
    unfold markedRouter
    rw [List.mem_insert_iff, eq_comm]
    refine or_congr_right ?_
    cases builder.routers.get? sender.id with
    | none =>
        refine iff_of_false List.not_mem_nil ?_
        rintro ⟨router, impossible, _spoken⟩
        cases impossible
    | some router =>
        simp only [Option.getD_some, Option.some.injEq, exists_eq_left']
  · rw [if_neg same]
    exact (or_iff_right fun both => same both.1.symm).symm

end TopologyBuilder

def Evidence.Speaks (evidence : Evidence) (id : PyStr)
    (protocol : RoutingProtocol) : Prop :=
  ∃ sender, evidence.sender = some sender ∧ sender.id = id ∧
    sender.protocol = protocol

namespace TopologyBuilder

theorem record_speaks (builder : TopologyBuilder) (evidence : Evidence)
    (id : PyStr) (protocol : RoutingProtocol) :
    (builder.record evidence).Speaks id protocol ↔
      evidence.Speaks id protocol ∨ builder.Speaks id protocol := by
  unfold record Evidence.Speaks
  cases evidence.sender with
  | none =>
      refine (or_iff_right ?_).symm
      rintro ⟨sender, impossible, _same⟩
      cases impossible
  | some sender =>
      simp only [Option.some.injEq, exists_eq_left']
      exact mark_speaks builder sender id protocol

theorem record_links (builder : TopologyBuilder) (evidence : Evidence) :
    (builder.record evidence).links =
      builder.links ++ evidence.found.links := by
  unfold record
  cases evidence.sender with
  | none => rfl
  | some sender => rfl

theorem record_prefixes (builder : TopologyBuilder) (evidence : Evidence) :
    (builder.record evidence).prefixes =
      builder.prefixes ++ evidence.found.prefixes := by
  unfold record
  cases evidence.sender with
  | none => rfl
  | some sender => rfl

section

variable (builder : TopologyBuilder) (evidences : List Evidence)

theorem records_links :
    (evidences.foldl record builder).links =
      builder.links ++ evidences.flatMap fun evidence =>
        evidence.found.links := by
  induction evidences generalizing builder with
  | nil => exact (List.append_nil _).symm
  | cons evidence rest ih =>
      rw [List.foldl_cons, ih, record_links, List.flatMap_cons,
        List.append_assoc]

theorem records_prefixes :
    (evidences.foldl record builder).prefixes =
      builder.prefixes ++ evidences.flatMap fun evidence =>
        evidence.found.prefixes := by
  induction evidences generalizing builder with
  | nil => exact (List.append_nil _).symm
  | cons evidence rest ih =>
      rw [List.foldl_cons, ih, record_prefixes, List.flatMap_cons,
        List.append_assoc]

theorem records_speaks (id : PyStr) (protocol : RoutingProtocol) :
    (evidences.foldl record builder).Speaks id protocol ↔
      (∃ evidence ∈ evidences, evidence.Speaks id protocol) ∨
        builder.Speaks id protocol := by
  induction evidences generalizing builder with
  | nil =>
      refine (or_iff_right ?_).symm
      rintro ⟨evidence, impossible, _speaks⟩
      cases impossible
  | cons evidence rest ih =>
      rw [List.foldl_cons, ih, record_speaks, List.exists_mem_cons_iff,
        or_assoc, or_left_comm]

end

/-! ### The order of a capture -/

end TopologyBuilder

/-! ### What the records rest on -/

/-- The prefixes lead to the router, the links touch it, and both come from the
protocol. -/
structure Found.Anchored (id : PyStr) (protocol : RoutingProtocol)
    (found : Found) : Prop where
  prefixes : ∀ pfx ∈ found.prefixes, pfx.nexthop = id ∧ pfx.protocol = protocol
  links : ∀ link ∈ found.links,
    (link.srcId = id ∨ link.dstId = id) ∧ link.protocol = protocol

section

variable {id : PyStr} {protocol : RoutingProtocol}

theorem Found.anchored_nothing : Found.Anchored id protocol {} where
  prefixes _pfx impossible := by cases impossible
  links _link impossible := by cases impossible

theorem Found.anchored_prefix {pfx : Prefix}
    (anchored : pfx.nexthop = id ∧ pfx.protocol = protocol) :
    Found.Anchored id protocol { prefixes := [pfx] } where
  prefixes other member := List.mem_singleton.mp member ▸ anchored
  links _link impossible := by cases impossible

theorem Found.anchored_links {links : List Link}
    (anchored : ∀ link ∈ links,
      (link.srcId = id ∨ link.dstId = id) ∧ link.protocol = protocol) :
    Found.Anchored id protocol { links } where
  prefixes _pfx impossible := by cases impossible
  links := anchored

theorem Found.Anchored.append {first second : Found}
    (left : first.Anchored id protocol) (right : second.Anchored id protocol) :
    (first.append second).Anchored id protocol where
  prefixes pfx member :=
    (List.mem_append.mp member).elim (left.prefixes pfx) (right.prefixes pfx)
  links link member :=
    (List.mem_append.mp member).elim (left.links link) (right.links link)

theorem foundBefore_anchored {α : Type} {found : α → Except PyError Found}
    {entries : List α}
    (each : ∀ entry ∈ entries, ∀ more, found entry = .ok more →
      more.Anchored id protocol) :
    (foundBefore found entries).Anchored id protocol := by
  induction entries with
  | nil => exact Found.anchored_nothing
  | cons entry rest ih =>
      unfold foundBefore
      cases outcome : found entry with
      | error problem => exact Found.anchored_nothing
      | ok more =>
          have first := each entry List.mem_cons_self more outcome
          exact first.append <| ih fun other member =>
            each other (List.mem_cons_of_mem entry member)

end

/-- The next hop of an external route is the sender, as the extractor raises
`TypeError` for a forwarding address. -/
theorem lsaFound_anchored {rid : PyStr} {lsa : Ospf.V2.Lsa} {more : Found}
    (found : lsaFound rid lsa = .ok more) : more.Anchored rid .ospf := by
  unfold lsaFound at found
  cases body : lsa.body with
  | router router =>
      rw [body] at found
      rw [← Except.ok.inj found]
      refine Found.anchored_links fun link member => ?_
      obtain ⟨sent, _member, rfl⟩ := List.mem_map.mp member
      exact ⟨Or.inl rfl, rfl⟩
  | network network =>
      rw [body] at found
      rw [← Except.ok.inj found]
      refine Found.anchored_links fun link member => ?_
      obtain ⟨other, _member, rfl⟩ := List.mem_map.mp member
      exact ⟨Or.inr rfl, rfl⟩
  | asExternal external =>
      rw [body] at found
      dsimp only at found
      split at found
      · cases found
      · obtain ⟨nh, sender, rest⟩ := bind_eq_ok.mp found
        obtain ⟨id, _packed, rest⟩ := bind_eq_ok.mp rest
        obtain ⟨net, _written, done⟩ := bind_eq_ok.mp rest
        rw [← Except.ok.inj done, ← Except.ok.inj sender]
        exact Found.anchored_prefix ⟨rfl, rfl⟩
  | header data =>
      rw [body] at found
      rw [← Except.ok.inj found]
      exact Found.anchored_nothing
  | summaryIP summary =>
      rw [body] at found
      rw [← Except.ok.inj found]
      exact Found.anchored_nothing
  | summaryASBR summary =>
      rw [body] at found
      rw [← Except.ok.inj found]
      exact Found.anchored_nothing

theorem eigrpFound_anchored {src : PyStr} {tlv : Eigrp.MessageTLV}
    {more : Found} (found : eigrpFound src tlv = .ok more) :
    more.Anchored src .eigrp := by
  cases tlv with
  | internalRoute route =>
      rw [← Except.ok.inj found]
      exact Found.anchored_prefix ⟨rfl, rfl⟩
  | externalRoute route =>
      rw [← Except.ok.inj found]
      exact Found.anchored_prefix ⟨rfl, rfl⟩
  | param tlv =>
      rw [← Except.ok.inj found]
      exact Found.anchored_nothing
  | generic tlv =>
      rw [← Except.ok.inj found]
      exact Found.anchored_nothing

theorem reachFound_anchored {sysId : PyStr} {pfx : Isis.IpReachability}
    {more : Found} (found : reachFound sysId pfx = .ok more) :
    more.Anchored sysId .isis := by
  obtain ⟨net, _written, rest⟩ := bind_eq_ok.mp found
  obtain ⟨maskInt, _unpacked, done⟩ := bind_eq_ok.mp rest
  rw [← Except.ok.inj done]
  exact Found.anchored_prefix ⟨rfl, rfl⟩

theorem isisFound_anchored {sysId : PyStr} {tlv : Isis.ISISTLV}
    {entry : Except PyError Found} (member : entry ∈ isisFound sysId tlv)
    {more : Found} (found : entry = .ok more) : more.Anchored sysId .isis := by
  -- a list of one error
  have failed : entry ∈ [(.error .attributeError : Except PyError Found)] →
      more.Anchored sysId .isis := by
    intro only
    rw [List.mem_singleton.mp only] at found
    cases found
  unfold isisFound at member
  split at member
  · obtain ⟨ra, _listed, made⟩ := List.mem_map.mp member
    rw [found] at made
    rw [← Except.ok.inj made]
    refine Found.anchored_links fun link only => ?_
    rw [List.mem_singleton.mp only]
    exact ⟨Or.inl rfl, rfl⟩
  · obtain ⟨pfx, _listed, made⟩ := List.mem_map.mp member
    exact reachFound_anchored (made.trans found)
  · obtain ⟨pfx, _listed, made⟩ := List.mem_map.mp member
    exact reachFound_anchored (made.trans found)
  · exact failed member
  · exact failed member
  · exact failed member
  · cases member

/-- What is found in a packet is anchored at its sender; without a sender
nothing is found. -/
def Evidence.Anchored (evidence : Evidence) : Prop :=
  match evidence.sender with
  | some sender => evidence.found.Anchored sender.id sender.protocol
  | none => evidence.found = {}

theorem ospfEvidence_anchored (rid : PyStr) (ospf : OspfPacket) :
    (ospfEvidence rid ospf).Anchored := by
  change (Evidence.found _).Anchored rid .ospf
  unfold ospfEvidence
  cases ospf.lsu with
  | none => exact Found.anchored_nothing
  | some lsu =>
      exact foundBefore_anchored fun lsa _member more found =>
        lsaFound_anchored found

theorem eigrpEvidence_anchored (src : PyStr) (eigrp : Eigrp.EIGRP) :
    (eigrpEvidence src eigrp).Anchored := by
  change (Evidence.found _).Anchored src .eigrp
  unfold eigrpEvidence
  cases eigrp.data with
  | raw data => exact Found.anchored_nothing
  | message body =>
      exact foundBefore_anchored fun tlv _member more found =>
        eigrpFound_anchored found

/-- No entry of a RIP packet adds anything. -/
theorem ripEvidence_anchored (src : PyStr) (data : Bytes) :
    (ripEvidence src data).Anchored := by
  unfold ripEvidence
  cases Rip.RIP.parse data with
  | error problem => rfl
  | ok rip =>
      refine foundBefore_anchored fun entry _member more found => ?_
      cases found

theorem isisEvidence_anchored (payload : Bytes) :
    (isisEvidence payload).Anchored := by
  unfold isisEvidence
  split
  · refine foundBefore_anchored fun entry member more found => ?_
    obtain ⟨tlv, _tlv, listed⟩ := List.mem_flatMap.mp member
    exact isisFound_anchored listed found
  · rfl

theorem evidence_anchored (pkt : CapturedPacket) : pkt.evidence.Anchored := by
  unfold CapturedPacket.evidence
  cases pkt.data with
  | eigrp eigrp => exact eigrpEvidence_anchored _ eigrp
  | ip data =>
      dsimp only
      split
      · cases data with
        | ospf ospf => exact ospfEvidence_anchored _ ospf
        | udp sport dport datagram => exact ripEvidence_anchored _ datagram
        | tcp sport dport seq ack flags segment => rfl
        | other => rfl
      · cases pkt.llc with
        | none => rfl
        | some payload => exact isisEvidence_anchored payload

/-- The senders of a capture, as its packets show them. -/
def senders (packets : List CapturedPacket) : List Sender :=
  packets.filterMap fun pkt => pkt.evidence.sender

/-- The record of a router says what packets from it said. -/
structure Router.Founded (seen : List Sender) (rid : PyStr) (router : Router) :
    Prop where
  id : router.id = rid
  name : router.name = []
  heard : router.protocols ≠ []
  protocols : ∀ protocol ∈ router.protocols,
    ∃ sender ∈ seen, sender.id = rid ∧ sender.protocol = protocol
  area : router.area = [] ∨ ∃ sender ∈ seen,
    sender.id = rid ∧ sender.area = router.area
  asn : router.asn = 0 ∨ ∃ sender ∈ seen,
    sender.id = rid ∧ sender.asn = router.asn

namespace TopologyBuilder

/-- Every router is founded on these senders. -/
def RoutersFounded (builder : TopologyBuilder) (seen : List Sender) : Prop :=
  ∀ rid router, builder.routers.get? rid = some router →
    router.Founded seen rid

section

variable {builder : TopologyBuilder} {seen : List Sender}

theorem markedRouter_founded (founded : builder.RoutersFounded seen)
    {sender : Sender} (member : sender ∈ seen) :
    (builder.markedRouter sender).Founded seen sender.id := by
  have here {protocol : RoutingProtocol}
      (spoken : protocol = sender.protocol) :
      ∃ other ∈ seen, other.id = sender.id ∧ other.protocol = protocol :=
    ⟨sender, member, rfl, spoken.symm⟩
  unfold markedRouter
  cases entry : builder.routers.get? sender.id with
  | none =>
      refine
        { id := rfl, name := rfl, heard := List.cons_ne_nil _ _
          protocols := fun protocol spoken =>
            here (List.mem_singleton.mp spoken)
          area := ?_, asn := ?_ }
      · dsimp only
        split
        · exact Or.inl rfl
        · exact Or.inr ⟨sender, member, rfl, rfl⟩
      · dsimp only
        split
        · exact Or.inl rfl
        · exact Or.inr ⟨sender, member, rfl, rfl⟩
  | some known =>
      have before := founded sender.id known entry
      refine
        { id := before.id, name := before.name, heard := ?_
          protocols := fun protocol spoken => ?_, area := ?_, asn := ?_ }
      · exact List.ne_nil_of_mem List.mem_insert_self
      · rcases List.mem_insert_iff.mp spoken with now | earlier
        · exact here now
        · exact before.protocols protocol earlier
      · dsimp only
        split
        · exact before.area
        · exact Or.inr ⟨sender, member, rfl, rfl⟩
      · dsimp only
        split
        · exact before.asn
        · exact Or.inr ⟨sender, member, rfl, rfl⟩

theorem RoutersFounded.record (founded : builder.RoutersFounded seen)
    {evidence : Evidence}
    (member : ∀ sender, evidence.sender = some sender → sender ∈ seen) :
    (builder.record evidence).RoutersFounded seen := by
  unfold TopologyBuilder.record
  cases shown : evidence.sender with
  | none => exact founded
  | some sender =>
      intro rid router known
      change (builder.mark sender).routers.get? rid = some router at known
      rw [mark_get?] at known
      by_cases same : rid = sender.id
      · rw [if_pos same, Option.some.injEq] at known
        rw [← known, same]
        exact markedRouter_founded founded (member sender shown)
      · rw [if_neg same] at known
        exact founded rid router known

theorem RoutersFounded.records {evidences : List Evidence}
    (founded : builder.RoutersFounded seen)
    (member : ∀ evidence ∈ evidences, ∀ sender,
      evidence.sender = some sender → sender ∈ seen) :
    (evidences.foldl TopologyBuilder.record builder).RoutersFounded seen := by
  induction evidences generalizing builder with
  | nil => exact founded
  | cons evidence rest ih =>
      rw [List.foldl_cons]
      refine ih (founded.record (member evidence List.mem_cons_self)) ?_
      exact fun other among =>
        member other (List.mem_cons_of_mem evidence among)

end

end TopologyBuilder

end DpktNg.Topology
