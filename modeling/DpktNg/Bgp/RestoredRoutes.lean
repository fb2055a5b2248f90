/-
Routes and subnetwork points that dpkt/bgp.py parses and writes as the same
bytes: plain prefixes always, EVPN routes when their data is complete.
-/

import DpktNg.Bgp.Evpn
import DpktNg.Bgp.WireFormat

namespace DpktNg.Bgp

open Library

theorem Prefix.encode_length (route : Prefix) :
    route.encode.length = 1 + octets route.len.toNat := by
  unfold Prefix.encode
  rw [List.length_cons, route.octets_eq]
  omega

theorem Prefix.takeHeader (route : Prefix) (rest : Bytes) :
    takeHeader 1 (route.encode ++ rest) =
      .ok ([route.len], route.address ++ rest) := by
  have split : route.encode ++ rest =
      [route.len] ++ (route.address ++ rest) := rfl
  rw [split]
  exact takeHeader_append 1 rfl

theorem Prefix.take_octets (route : Prefix) (rest : Bytes) :
    (route.address ++ rest).take (octets route.len.toNat) = route.address :=
  List.take_left' route.octets_eq

theorem Prefix.paddedAddress (route : Prefix) (width : Nat) (rest : Bytes) :
    paddedAddress width route.len.toNat (route.address ++ rest) =
      route.address ++ zeros (width - route.address.length) := by
  unfold Bgp.paddedAddress
  rw [route.take_octets]

def Prefix.ipv4 (route : Prefix) : Route :=
  .ipv4 route.len.toNat
    (route.address ++ zeros (4 - route.address.length))

theorem Prefix.ipv4_parses (route : Prefix) :
    Parses routeIPV4 Route.size route.encode route.ipv4 where
  parsed := by
    intro rest
    unfold routeIPV4
    rw [packetInit_eq_ok, route.takeHeader, ok_bind]
    dsimp only
    rw [beNat_singleton, route.paddedAddress]
    rfl
  size_eq := by
    rw [route.encode_length]
    rfl

theorem Prefix.ipv4_bytes (route : Prefix) :
    route.ipv4.bytes = .ok route.encode := by
  unfold Prefix.ipv4
  rw [Route.bytes, packHdr_byte, ok_bind, route.take_octets]
  rfl

theorem Prefix.restored {afi : Nat} (notL2vpn : afi ≠ afiL2vpn)
    (route : Prefix) :
    Restored (routeOf afi) Route.size Route.bytes route.encode := by
  unfold routeOf
  by_cases four : afi = afiIpv4
  · rw [if_pos four]
    exact ⟨route.ipv4, route.ipv4_parses, route.ipv4_bytes⟩
  rw [if_neg four]
  by_cases six : afi = afiIpv6
  · rw [if_pos six]
    refine ⟨.ipv6 route.len.toNat
      (route.address ++ zeros (16 - route.address.length)), ⟨?_, ?_⟩, ?_⟩
    · intro rest
      unfold routeIPV6
      rw [packetInit_eq_ok, route.takeHeader, ok_bind]
      dsimp only
      rw [beNat_singleton, route.paddedAddress]
    · rw [route.encode_length]
      rfl
    · rw [Route.bytes, packHdr_byte, ok_bind, route.take_octets]
      rfl
  · rw [if_neg six, if_neg notL2vpn]
    refine ⟨.generic route.len.toNat route.address, ⟨?_, ?_⟩, ?_⟩
    · intro rest
      unfold routeGeneric
      rw [packetInit_eq_ok, route.takeHeader, ok_bind]
      dsimp only
      rw [beNat_singleton, route.take_octets]
    · rw [route.encode_length, Route.size, route.octets_eq]
    · rw [Route.bytes, packHdr_byte, ok_bind]
      rfl

def EvpnTlv.Complete (route : EvpnTlv) : Prop :=
  EvpnComplete route.type.toNat route.data

theorem EvpnTlv.parsed (route : EvpnTlv) (rest : Bytes) :
    EvpnParsed route.type.toNat route.data.length route.data
      (routeEVPN (route.encode ++ rest)) := by
  have parsed := routeEVPN_parsed route.type
    (UInt8.ofNat route.data.length) (route.data ++ rest)
  rw [count_toNat route.short, List.take_left] at parsed
  exact parsed

theorem EvpnTlv.encode_length (route : EvpnTlv) :
    route.encode.length = 2 + route.data.length := by
  unfold EvpnTlv.encode
  rw [List.length_cons, List.length_cons]
  omega

/-- What is behind a route makes no difference to it. -/
theorem EvpnTlv.parsed_append {route : EvpnTlv} {parsed : Route}
    (read : routeEVPN route.encode = .ok parsed) (rest : Bytes) :
    routeEVPN (route.encode ++ rest) = .ok parsed := by
  have header : route.encode =
      [route.type, UInt8.ofNat route.data.length] ++ route.data := rfl
  have len : beNat (cut [route.type, UInt8.ofNat route.data.length] 1 2) =
      route.data.length :=
    (beNat_singleton _).trans (count_toNat route.short)
  unfold routeEVPN at read ⊢
  rw [packetInit_eq_ok, header, takeHeader_append 2 rfl, ok_bind] at read
  rw [packetInit_eq_ok, header, List.append_assoc, takeHeader_append 2 rfl,
    ok_bind]
  dsimp only at read ⊢
  rw [len, List.take_length] at read
  rw [len, List.take_left]
  exact read

theorem EvpnTlv.restored {route : EvpnTlv} (complete : route.Complete) :
    Restored routeEVPN Route.size Route.bytes route.encode := by
  have alone := route.parsed []
  rw [List.append_nil] at alone
  obtain ⟨parsed, read, type, len, data⟩ := alone.complete complete
  refine ⟨.evpn parsed, ⟨?_, ?_⟩, ?_⟩
  · intro rest
    exact EvpnTlv.parsed_append read rest
  · rw [Route.size, len, route.encode_length]
  · have packed := packHdr_two route.type (UInt8.ofNat route.data.length)
    rw [count_toNat route.short] at packed
    rw [Route.bytes, type, len, data, packed, ok_bind]
    rfl

def Routes.Complete : Routes → Prop
  | .l2vpn list => ∀ route ∈ list, route.Complete
  | .plain _ _ _ => True

theorem Routes.restored {routes : Routes} (complete : routes.Complete) :
    ∀ chunk ∈ routes.chunks,
      Restored (routeOf routes.afi) Route.size Route.bytes chunk := by
  intro chunk member
  cases routes with
  | l2vpn list =>
      obtain ⟨route, present, same⟩ := List.mem_map.mp member
      rw [← same]
      exact EvpnTlv.restored (complete route present)
  | plain afi notL2vpn list =>
      obtain ⟨route, _present, same⟩ := List.mem_map.mp member
      rw [← same]
      exact route.restored notL2vpn

theorem Routes.items {routes : Routes} (complete : routes.Complete) :
    ∃ items, routesOf routes.afi routes.encode = .ok items ∧
      routesSize items = routes.encode.length ∧
        joinBytes Route.bytes items = .ok routes.encode := by
  obtain ⟨items, parses, written⟩ := Restored.items (Routes.restored complete)
  exact ⟨items, parseAll_flatten parses, Parses.sizes parses, written⟩

/-- The first incomplete route ends the parsing. -/
theorem Routes.complete_of_parsed {routes : Routes} {items : List Route}
    (parsed : routesOf routes.afi routes.encode = .ok items) :
    routes.Complete := by
  cases routes with
  | plain afi notL2vpn list => trivial
  | l2vpn list =>
      change parseAll routeEVPN Route.size Route.size_pos
        (list.map EvpnTlv.encode).flatten = .ok items at parsed
      change ∀ route ∈ list, route.Complete
      induction list generalizing items with
      | nil =>
          intro route impossible
          cases impossible
      | cons route rest ih =>
          rw [List.map_cons, List.flatten_cons] at parsed
          by_cases complete : route.Complete
          · obtain ⟨item, parses, _written⟩ := EvpnTlv.restored complete
            rw [parseAll_chunk parses] at parsed
            obtain ⟨others, parsedRest, _same⟩ := bind_eq_ok.mp parsed
            rw [List.forall_mem_cons]
            exact ⟨complete, ih parsedRest⟩
          · have some_left : route.encode ++
                (rest.map EvpnTlv.encode).flatten ≠ [] := by
              unfold EvpnTlv.encode
              exact List.cons_ne_nil _ _
            rw [parseAll_of_ne_nil some_left,
              (route.parsed _).incomplete complete] at parsed
            cases parsed

def WireSnpa.parsed (point : WireSnpa) : Snpa where
  len := point.len.toNat
  data := point.data

theorem WireSnpa.parses (point : WireSnpa) :
    Parses snpa Snpa.size point.encode point.parsed where
  parsed := by
    intro rest
    have split : point.encode ++ rest =
        [point.len] ++ (point.data ++ rest) := rfl
    unfold snpa
    rw [packetInit_eq_ok, split, takeHeader_append 1 rfl, ok_bind]
    dsimp only
    rw [beNat_singleton, List.take_left' point.octets_eq]
    rfl
  size_eq := by
    unfold Snpa.size WireSnpa.encode WireSnpa.parsed
    dsimp only
    rw [List.length_cons]
    omega

theorem WireSnpa.bytes (point : WireSnpa) :
    point.parsed.bytes = .ok point.encode := by
  unfold Snpa.bytes WireSnpa.parsed
  rw [packHdr_byte, ok_bind]
  rfl

theorem snpas_encode (points : List WireSnpa) (rest : Bytes) :
    snpas points.length (points.flatMap WireSnpa.encode ++ rest) =
      .ok (points.map WireSnpa.parsed, rest) := by
  induction points with
  | nil => rfl
  | cons point others ih =>
      rw [List.length_cons, snpas, List.flatMap_cons, List.append_assoc,
        point.parses.parsed, ok_bind, point.parses.drop, ih, ok_bind,
        List.map_cons]

theorem snpas_bytes (points : List WireSnpa) :
    joinBytes Snpa.bytes (points.map WireSnpa.parsed) =
      .ok (points.flatMap WireSnpa.encode) := by
  rw [List.flatMap_def]
  apply joinBytes_chunks
  rw [List.forall₂_map_left_iff, List.forall₂_map_right_iff, List.forall₂_same]
  intro point _member
  exact point.bytes

theorem snpas_size (points : List WireSnpa) :
    ((points.map WireSnpa.parsed).map Snpa.size).sum =
      (points.flatMap WireSnpa.encode).length := by
  rw [List.length_flatMap, List.map_map]
  congr 1
  apply List.map_congr_left
  intro point _member
  exact point.parses.size_eq

end DpktNg.Bgp
