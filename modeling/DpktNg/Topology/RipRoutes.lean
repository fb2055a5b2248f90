/-
From RIP responses to prefixes.

The parser gives the addresses of a route entry as numbers, the extractor
hands them to `_inet_to_str`, which takes text and bytes only, and
`process_packet` swallows the `TypeError`.
-/

import DpktNg.Topology.Packets

namespace DpktNg.Topology

open DpktNg.Library DpktNg.Rip

/-- A subnet mask whose one bits come first. -/
def IsMask (mask : Nat) : Prop :=
  ∃ length ≤ 32, mask = 2 ^ 32 - 2 ^ (32 - length)

/-- A RIPv2 response: route entries with contiguous masks, and perhaps
authentications. -/
structure RipResponse where
  rsvd : Nat
  entries : List RIP.Entry
  rsvd_fits : rsvd < 256 ^ 2
  entries_fit : ∀ entry ∈ entries, entry.Fits
  contiguous : ∀ rte ∈ RIP.routes entries, IsMask rte.subnet

namespace RipResponse

variable (response : RipResponse)

def header : RIPHeader where
  cmd := 2
  v := 2
  rsvd := response.rsvd

def routes : List RTE := RIP.routes response.entries

def bytes : Bytes :=
  RIPHeader.format.bytes .big response.header ++
    response.entries.flatMap RIP.Entry.bytes

end RipResponse

/-- One prefix more for each route, in order. -/
def KeepsRoutes (before after : List Prefix) (routes : List RTE) : Prop :=
  ∃ added, after = before ++ added ∧
    List.Forall₂
      (fun rte entry =>
        entry.network = dotted rte.addr ∧
          entry.mask = onesCount rte.subnet ∧
            entry.nexthop = dotted rte.nextHop ∧ entry.metric = rte.metric)
      routes added

theorem keepsRoutes_same (before : List Prefix) (routes : List RTE) :
    KeepsRoutes before before routes ↔ routes = [] := by
  constructor
  · rintro ⟨added, same, matched⟩
    have none_added : added = [] := List.self_eq_append_right.mp same
    rw [none_added, List.forall₂_nil_right_iff] at matched
    exact matched
  · rintro rfl
    exact ⟨[], (List.append_nil before).symm, .nil⟩

namespace TopologyBuilder

theorem extractRip_prefixes (builder : TopologyBuilder) (ip : IpPacket)
    (rip : RIP) :
    (builder.extractRip ip rip).1.prefixes = builder.prefixes := by
  unfold extractRip
  rw [extractEach_refused fun _entry => rfl]
  rfl

/-- RIP adds no prefix, whatever is in the datagram. -/
theorem processIp_rip (builder : TopologyBuilder) (src dst : InAddr)
    {sport dport : Nat} (port : sport = 520 ∨ dport = 520) (data : Bytes) :
    (builder.processIp
      { src, dst, data := .udp sport dport data }).1.prefixes =
        builder.prefixes := by
  unfold processIp
  dsimp only
  rw [if_pos port]
  split
  · exact extractRip_prefixes builder _ _
  · rfl

/-- The routes of a response are all kept exactly when it has none. -/
theorem ripRoutes_kept_iff (builder : TopologyBuilder) (src dst : InAddr)
    {sport dport : Nat} (port : sport = 520 ∨ dport = 520)
    (response : RipResponse) :
    KeepsRoutes builder.prefixes
        (builder.processIp
          { src, dst, data := .udp sport dport response.bytes }).1.prefixes
        response.routes ↔
      response.routes = [] := by
  rw [processIp_rip builder src dst port]
  exact keepsRoutes_same builder.prefixes response.routes

end TopologyBuilder

def tenNetwork : RIP.Entry :=
  .route { addr := 0x0a000000, subnet := 0xff000000 }

theorem tenNetwork_fits : ∀ entry ∈ [tenNetwork], entry.Fits := by
  decide

theorem tenNetwork_contiguous :
    ∀ rte ∈ RIP.routes [tenNetwork], IsMask rte.subnet := by
  intro rte member
  rw [List.mem_singleton.mp member]
  exact ⟨8, by decide, rfl⟩

theorem noRsvd_fits : 0 < 256 ^ 2 := by decide

def oneRipRoute : RipResponse where
  rsvd := 0
  entries := [tenNetwork]
  rsvd_fits := noRsvd_fits
  entries_fit := tenNetwork_fits
  contiguous := tenNetwork_contiguous

theorem ripRoutes_kept_iff_one :
    (520 = 520 ∨ 520 = 520) ∧
      (KeepsRoutes []
          (TopologyBuilder.processIp {}
            { src := ⟨10, 0, 0, 1⟩, dst := ⟨224, 0, 0, 9⟩
              data := .udp 520 520 oneRipRoute.bytes }).1.prefixes
          oneRipRoute.routes ↔
        oneRipRoute.routes = []) :=
  ⟨Or.inl rfl, TopologyBuilder.ripRoutes_kept_iff {} ⟨10, 0, 0, 1⟩
    ⟨224, 0, 0, 9⟩ (Or.inl rfl) oneRipRoute⟩

/-- The route is parsed, and no prefix is appended. -/
theorem oneRipRoute_lost :
    ¬∀ (builder : TopologyBuilder) (src dst : InAddr) (sport dport : Nat)
        (response : RipResponse),
      sport = 520 ∨ dport = 520 →
        KeepsRoutes builder.prefixes
          (builder.processIp
            { src, dst, data := .udp sport dport response.bytes }).1.prefixes
          response.routes := by
  intro claimed
  have kept := claimed {} ⟨10, 0, 0, 1⟩ ⟨224, 0, 0, 9⟩ 520 520 oneRipRoute
    (Or.inl rfl)
  rw [TopologyBuilder.processIp_rip {} _ _ (Or.inl rfl), keepsRoutes_same]
    at kept
  cases kept

end DpktNg.Topology
