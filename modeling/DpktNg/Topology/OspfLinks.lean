/-
From router LSAs to links.

The extractor names the routers of a link in two ways: the source is the
dotted address that the packet came from, the destination the decimal number
in the LSA.
-/

import DpktNg.Topology.Packets

namespace DpktNg.Topology

open DpktNg.Library DpktNg.Ospf

/-- The text forms in which a router may be named. -/
inductive AddressForm where
  | dotted
  | decimal
deriving DecidableEq, Repr

def AddressForm.write : AddressForm → Nat → PyStr
  | .dotted => Topology.dotted
  | .decimal => DpktNg.decimal

theorem dot_mem_inetNtoa (addr : InAddr) : '.' ∈ inetNtoa addr := by
  unfold inetNtoa
  exact List.mem_append_right _ List.mem_cons_self

theorem AddressForm.dot_mem_write (form : AddressForm) (first second : Nat) :
    '.' ∈ form.write first ↔ '.' ∈ form.write second := by
  cases form with
  | dotted =>
      exact iff_of_true (dot_mem_inetNtoa ⟨_, _, _, _⟩)
        (dot_mem_inetNtoa ⟨_, _, _, _⟩)
  | decimal =>
      exact iff_of_false (dot_not_mem_decimal first)
        (dot_not_mem_decimal second)

/-- The name of a sender is the dotted form of its address alone. -/
theorem AddressForm.write_eq_sender {form : AddressForm} {value : Nat}
    {addr : InAddr} (same : form.write value = inetToStr (octets addr)) :
    octets addr = beBytes 4 value := by
  cases form with
  | dotted =>
      have equal := @inetNtoa_injective ⟨_, _, _, _⟩ addr same
      exact (congrArg octets equal).symm
  | decimal =>
      have dot : '.' ∈ DpktNg.decimal value := by
        rw [show DpktNg.decimal value = _ from same]
        exact dot_mem_inetNtoa addr
      exact absurd dot (dot_not_mem_decimal value)

/-- A packet with an update that holds router LSAs, each with its header. -/
structure RouterUpdate where
  src : InAddr
  dst : InAddr
  area : Nat
  lsaCount : Nat
  lsas : List (V2.LSAv2Header × V2.LSARouter)
deriving DecidableEq, Repr

namespace RouterUpdate

variable (update : RouterUpdate)

def packet : IpPacket where
  src := update.src
  dst := update.dst
  data := .ospf
    { area := update.area
      lsu := some
        { lsaCount := update.lsaCount
          lsas := update.lsas.map fun lsa =>
            { header := lsa.1, body := .router lsa.2 } } }

/-- The name under which the packet's links are recorded. -/
def rid : PyStr := inetToStr (octets update.src)

/-- The point-to-point links of the LSAs: from the advertising router to the
neighbour. -/
def pointToPoint : List (Nat × Nat) :=
  update.lsas.flatMap fun lsa =>
    (lsa.2.links.filter fun link => link.type = 1).map fun link =>
      (lsa.1.advRouter, link.id)

def advertisers : List Nat := update.lsas.map fun lsa => lsa.1.advRouter

/-- What the extractor makes of them. -/
def links : List Link :=
  update.lsas.flatMap fun lsa => routerLinks update.rid lsa.2

end RouterUpdate

/-- One form names the routers: it writes both ends of every point-to-point
link, and it writes the advertising routers as keys of `routers`. -/
def OneNaming (builder : TopologyBuilder) (updates : List RouterUpdate) :
    Prop :=
  ∃ form : AddressForm,
    List.Forall₂
        (fun sent link =>
          link.srcId = form.write sent.1 ∧ link.dstId = form.write sent.2)
        (updates.flatMap RouterUpdate.pointToPoint)
        (builder.links.filter fun link => link.linkType = .p2p) ∧
      ∀ advRouter ∈ updates.flatMap RouterUpdate.advertisers,
        (builder.routers.get? (form.write advRouter)).isSome

theorem linkTypeOf_eq_p2p (type : Nat) : linkTypeOf type = .p2p ↔ type = 1 := by
  unfold linkTypeOf
  split
  · rename_i one
    exact iff_of_true rfl one
  · rename_i notOne
    refine iff_of_false ?_ notOne
    split
    · exact LinkType.noConfusion
    · exact LinkType.noConfusion

namespace TopologyBuilder

theorem addProtocol_getRouter_known (builder : TopologyBuilder)
    (rid name area : PyStr) (asn : Nat) (protocol : RoutingProtocol)
    (key : PyStr) :
    ((addProtocol (builder.getRouter rid name area asn) rid
        protocol).routers.get? key).isSome ↔
      key = rid ∨ (builder.routers.get? key).isSome := by
  unfold addProtocol getRouter
  dsimp only
  by_cases same : key = rid
  · rw [same, Dict.get?_set_same]
    exact iff_of_true rfl (Or.inl rfl)
  · rw [Dict.get?_set_other _ _ same, Dict.get?_set_other _ _ same]
    exact ⟨Or.inr, fun known => known.resolve_left same⟩

theorem foldl_add_links {α : Type} (links : α → List Link) (entries : List α)
    (builder : TopologyBuilder) :
    ((entries.map fun entry => { links := links entry }).foldl add
          builder).links =
        builder.links ++ entries.flatMap links ∧
      ((entries.map fun entry => { links := links entry }).foldl add
          builder).routers = builder.routers := by
  induction entries generalizing builder with
  | nil => exact ⟨(List.append_nil _).symm, rfl⟩
  | cons entry rest ih =>
      obtain ⟨added, same⟩ := ih (builder.add { links := links entry })
      rw [List.map_cons, List.foldl_cons, List.flatMap_cons,
        ← List.append_assoc]
      exact ⟨added, same⟩

variable (builder : TopologyBuilder) (update : RouterUpdate)

theorem processIp_update :
    (builder.processIp update.packet).1.links = builder.links ++ update.links ∧
      ∀ key, ((builder.processIp update.packet).1.routers.get? key).isSome ↔
        key = update.rid ∨ (builder.routers.get? key).isSome := by
  have adds : List.Forall₂
      (fun lsa more => lsaFound update.rid lsa = .ok more)
      (update.lsas.map fun lsa => { header := lsa.1, body := .router lsa.2 })
      (update.lsas.map fun lsa =>
        { links := routerLinks update.rid lsa.2 }) := by
    rw [List.forall₂_map_left_iff, List.forall₂_map_right_iff,
      List.forall₂_same]
    exact fun lsa _member => rfl
  let marked := addProtocol
    (builder.getRouter update.rid [] (decimal update.area)) update.rid .ospf
  have run : builder.processIp update.packet =
      ((update.lsas.map fun lsa =>
        { links := routerLinks update.rid lsa.2 }).foldl add marked, .ok ()) :=
    extractEach_ok adds marked
  obtain ⟨links, routers⟩ := foldl_add_links
    (fun lsa : V2.LSAv2Header × V2.LSARouter => routerLinks update.rid lsa.2)
    update.lsas marked
  rw [run]
  dsimp only
  rw [links, routers]
  exact ⟨rfl, addProtocol_getRouter_known builder _ _ _ _ _⟩

theorem run_updates (updates : List RouterUpdate) :
    (packetMachine.run builder (updates.map RouterUpdate.packet)).links =
        builder.links ++ updates.flatMap RouterUpdate.links ∧
      ∀ key, ((packetMachine.run builder
          (updates.map RouterUpdate.packet)).routers.get? key).isSome ↔
        (∃ update ∈ updates, key = update.rid) ∨
          (builder.routers.get? key).isSome := by
  induction updates generalizing builder with
  | nil =>
      refine ⟨(List.append_nil _).symm, fun key => ⟨Or.inr, ?_⟩⟩
      rintro (⟨_update, impossible, _⟩ | known)
      · cases impossible
      · exact known
  | cons update rest ih =>
      obtain ⟨links, known⟩ := processIp_update builder update
      obtain ⟨allLinks, allKnown⟩ := ih (builder.processIp update.packet).1
      rw [List.map_cons, Machine.run_cons, List.flatMap_cons]
      refine ⟨?_, fun key => (allKnown key).trans ?_⟩
      · rw [← List.append_assoc, ← links]
        exact allLinks
      · rw [known key, List.exists_mem_cons_iff, or_assoc, or_left_comm]

end TopologyBuilder

theorem mem_routerLinks {rid : PyStr} {body : V2.LSARouter} {link : Link} :
    link ∈ routerLinks rid body ↔
      ∃ sent ∈ body.links,
        { srcId := rid, dstId := decimal sent.id, metric := sent.metric
          linkType := linkTypeOf sent.type, protocol := .ospf } = link := by
  unfold routerLinks
  exact List.mem_map

/-- A link is recorded from a dotted name to one without a dot. -/
theorem RouterUpdate.link_names {update : RouterUpdate} {link : Link}
    (member : link ∈ update.links) : '.' ∈ link.srcId ∧ '.' ∉ link.dstId := by
  obtain ⟨lsa, _sent, found⟩ := List.mem_flatMap.mp member
  obtain ⟨sent, _member, rfl⟩ := mem_routerLinks.mp found
  exact ⟨dot_mem_inetNtoa update.src, dot_not_mem_decimal sent.id⟩

/-- No point-to-point link is recorded when none was sent. -/
theorem RouterUpdate.links_p2p {update : RouterUpdate}
    (none_sent : update.pointToPoint = []) {link : Link}
    (member : link ∈ update.links) : link.linkType ≠ .p2p := by
  obtain ⟨lsa, sentLsa, found⟩ := List.mem_flatMap.mp member
  obtain ⟨sent, sentLink, rfl⟩ := mem_routerLinks.mp found
  intro p2p
  have one := (linkTypeOf_eq_p2p sent.type).mp p2p
  have nothing := List.flatMap_eq_nil_iff.mp none_sent lsa sentLsa
  rw [List.map_eq_nil_iff, List.filter_eq_nil_iff] at nothing
  exact nothing sent sentLink (decide_eq_true one)

theorem recorded_nothing {updates : List RouterUpdate}
    (none_sent : ∀ update ∈ updates, update.pointToPoint = []) :
    (updates.flatMap RouterUpdate.links).filter
      (fun link => link.linkType = .p2p) = [] := by
  rw [List.filter_eq_nil_iff]
  intro link member
  obtain ⟨update, among, found⟩ := List.mem_flatMap.mp member
  rw [decide_eq_true_iff]
  exact RouterUpdate.links_p2p (none_sent update among) found

/-- A recorded link that is matched would have its two ends in one form. -/
theorem sent_nothing {form : AddressForm} {updates : List RouterUpdate}
    (matched : List.Forall₂
      (fun sent link =>
        link.srcId = form.write sent.1 ∧ link.dstId = form.write sent.2)
      (updates.flatMap RouterUpdate.pointToPoint)
      ((updates.flatMap RouterUpdate.links).filter
        fun link => link.linkType = .p2p)) :
    updates.flatMap RouterUpdate.pointToPoint = [] := by
  cases sent : updates.flatMap RouterUpdate.pointToPoint with
  | nil => rfl
  | cons first rest =>
      rw [sent] at matched
      obtain ⟨link, others, ⟨src, dst⟩, _rest, same⟩ :=
        List.forall₂_cons_left_iff.mp matched
      have member : link ∈ updates.flatMap RouterUpdate.links :=
        List.mem_of_mem_filter (same ▸ List.mem_cons_self)
      obtain ⟨update, _among, found⟩ := List.mem_flatMap.mp member
      obtain ⟨dot, no_dot⟩ := RouterUpdate.link_names found
      rw [src, form.dot_mem_write first.1 first.2, ← dst] at dot
      exact absurd dot no_dot

/-- Updates are recorded under one naming exactly when they hold no
point-to-point link and every advertising router is among the senders. -/
theorem oneNaming_iff (updates : List RouterUpdate) :
    OneNaming
        (TopologyBuilder.packetMachine.run {}
          (updates.map RouterUpdate.packet)) updates ↔
      (∀ update ∈ updates, update.pointToPoint = []) ∧
        ∀ update ∈ updates, ∀ advRouter ∈ update.advertisers,
          ∃ sender ∈ updates, octets sender.src = beBytes 4 advRouter := by
  obtain ⟨links, known⟩ := TopologyBuilder.run_updates {} updates
  have recorded : (TopologyBuilder.packetMachine.run {}
      (updates.map RouterUpdate.packet)).links =
        updates.flatMap RouterUpdate.links := links
  have keys (key : PyStr) : ((TopologyBuilder.packetMachine.run {}
      (updates.map RouterUpdate.packet)).routers.get? key).isSome ↔
        ∃ update ∈ updates, key = update.rid :=
    (known key).trans (or_iff_left Bool.false_ne_true)
  unfold OneNaming
  rw [recorded]
  constructor
  · rintro ⟨form, matched, keyed⟩
    refine ⟨List.flatMap_eq_nil_iff.mp (sent_nothing matched), ?_⟩
    intro update member advRouter advertised
    obtain ⟨sender, among, same⟩ := (keys _).mp
      (keyed advRouter (List.mem_flatMap.mpr ⟨update, member, advertised⟩))
    exact ⟨sender, among, AddressForm.write_eq_sender same⟩
  · rintro ⟨none_sent, senders⟩
    refine ⟨.dotted, ?_, ?_⟩
    · rw [recorded_nothing none_sent, List.flatMap_eq_nil_iff.mpr none_sent]
      exact .nil
    · intro advRouter advertised
      obtain ⟨update, member, found⟩ := List.mem_flatMap.mp advertised
      obtain ⟨sender, among, same⟩ := senders update member advRouter found
      refine (keys _).mpr ⟨sender, among, ?_⟩
      change inetToStr (beBytes 4 advRouter) = inetToStr (octets sender.src)
      rw [same]

/-- The router 10.0.0.1 with a link to 10.0.0.2, as it sends it itself. -/
def oneNeighbour : RouterUpdate where
  src := ⟨10, 0, 0, 1⟩
  dst := ⟨224, 0, 0, 5⟩
  area := 0
  lsaCount := 1
  lsas :=
    [({ age := 1, opts := 1, type := 1, id := 0x0a000001
        advRouter := 0x0a000001, seq := 0x80000001, sum := 0, len := 36 },
      { flags := 0
        links := [{ id := 0x0a000002, data := 0x0a000001, type := 1, tos := 0
                    metric := 10 }] })]

/-- The link is recorded from `10.0.0.1` to `167772162`. -/
theorem oneNeighbour_named_twice :
    (TopologyBuilder.packetMachine.run {} [oneNeighbour.packet]).links =
        [{ srcId := "10.0.0.1".toList, dstId := "167772162".toList
           metric := 10, linkType := .p2p, protocol := .ospf }] ∧
      ¬∀ updates : List RouterUpdate,
        OneNaming
          (TopologyBuilder.packetMachine.run {}
            (updates.map RouterUpdate.packet)) updates := by
  have recorded : (TopologyBuilder.packetMachine.run {}
      [oneNeighbour.packet]).links =
        [{ srcId := "10.0.0.1".toList, dstId := "167772162".toList
           metric := 10, linkType := .p2p, protocol := .ospf }] := by
    decide +kernel
  refine ⟨recorded, fun claimed => ?_⟩
  obtain ⟨form, matched, _keyed⟩ := claimed [oneNeighbour]
  rw [List.map_singleton, recorded] at matched
  obtain ⟨src, dst⟩ := (List.forall₂_cons.mp matched).1
  have dots := form.dot_mem_write 0x0a000001 0x0a000002
  rw [← src, ← dst] at dots
  revert dots
  decide

end DpktNg.Topology
