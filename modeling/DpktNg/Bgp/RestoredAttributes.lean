/-
Path attributes that dpkt/bgp.py parses and writes as the same bytes.
MP_REACH_NLRI does not come back when its next hop is no whole number of
addresses: `MPReachNLRI` then takes octets that belong to the next field.
-/

import DpktNg.Bgp.RestoredRoutes

namespace DpktNg.Bgp

open Library

def hopLength (afi : Nat) : Nat := if afi = afiIpv6 then 16 else 4

theorem nextHops_takes (hopLen count : Nat) (data : Bytes) :
    (nextHops hopLen count data).1.flatten = data.take (count * hopLen) ∧
      (nextHops hopLen count data).2 = data.drop (count * hopLen) := by
  induction count generalizing data with
  | zero =>
      rw [Nat.zero_mul]
      exact ⟨rfl, rfl⟩
  | succ count ih =>
      obtain ⟨hops, behind⟩ := ih (data.drop hopLen)
      have split : (count + 1) * hopLen = hopLen + count * hopLen := by
        rw [Nat.succ_mul, Nat.add_comm]
      rw [nextHops, split]
      constructor
      · rw [List.flatten_cons, hops, List.take_add]
      · rw [behind, List.drop_drop]

theorem sum_hops (hops : List Bytes) :
    (hops.map List.length).sum = hops.flatten.length := by
  rw [List.length_flatten]

/-- How many octets the loop takes for a next hop. -/
def hopOctets (afi nlen : Nat) : Nat :=
  (nlen + hopLength afi - 1) / hopLength afi * hopLength afi

theorem hopLength_pos (afi : Nat) : 0 < hopLength afi := by
  unfold hopLength
  split
  · exact Nat.succ_pos 15
  · exact Nat.succ_pos 3

theorem hopOctets_eq_iff (afi nlen : Nat) :
    hopOctets afi nlen = nlen ↔ hopLength afi ∣ nlen := by
  unfold hopOctets
  constructor
  · intro same
    rw [← same]
    exact Nat.dvd_mul_left _ _
  · rintro ⟨count, same⟩
    have positive := hopLength_pos afi
    have quotient : (hopLength afi * count + hopLength afi - 1) /
        hopLength afi = count := by
      rw [Nat.add_sub_assoc positive, Nat.mul_add_div positive,
        Nat.div_eq_of_lt (by omega), Nat.add_zero]
    rw [same, quotient, Nat.mul_comm]

theorem le_hopOctets (afi nlen : Nat) : nlen ≤ hopOctets afi nlen := by
  unfold hopOctets
  have positive := hopLength_pos afi
  have division := Nat.div_add_mod (nlen + hopLength afi - 1) (hopLength afi)
  have remainder := Nat.mod_lt (nlen + hopLength afi - 1) positive
  rw [Nat.mul_comm] at division
  omega

theorem familyHeader_length (routes : Routes) (safi : UInt8) :
    (familyHeader routes safi).length = 3 := by
  unfold familyHeader
  rw [List.length_append, beBytes_length]
  rfl

theorem familyHeader_afi (routes : Routes) (safi : UInt8) :
    beNat (cut (familyHeader routes safi) 0 2) = routes.afi := by
  have front : cut (familyHeader routes safi) 0 2 = beBytes 2 routes.afi :=
    List.take_left' (beBytes_length 2 _)
  rw [front, beNat_beBytes routes.afi_lt]

theorem familyHeader_safi (routes : Routes) (safi : UInt8) :
    beNat (cut (familyHeader routes safi) 2 3) = safi.toNat := by
  have behind : (familyHeader routes safi).drop 2 = [safi] :=
    List.drop_left' (beBytes_length 2 _)
  unfold cut
  rw [behind]
  exact beNat_singleton safi

theorem familyHeader_packs (routes : Routes) (safi : UInt8) :
    packHdr [(2, routes.afi), (1, safi.toNat)] =
      .ok (familyHeader routes safi) := by
  rw [packHdr_ok]
  · rw [List.flatMap_cons, List.flatMap_singleton, beBytes_one]
    rfl
  · intro field member
    rcases List.mem_pair.mp member with here | here
    · rw [here]
      exact routes.afi_lt
    · rw [here]
      exact safi.toNat_lt

namespace Reach

variable (reach : Reach)

/-- The octets of the next hop make whole addresses. -/
def WholeHops : Prop := hopLength reach.routes.afi ∣ reach.nextHop.length

/-- The next hops and what is behind them, as the loop takes them. -/
def hops : List Bytes × Bytes :=
  nextHops (hopLength reach.routes.afi)
    ((reach.nextHop.length + hopLength reach.routes.afi - 1) /
      hopLength reach.routes.afi) (reach.nextHop ++ reach.behindHop)

theorem hops_flatten :
    reach.hops.1.flatten = (reach.nextHop ++ reach.behindHop).take
      (hopOctets reach.routes.afi reach.nextHop.length) :=
  (nextHops_takes _ _ _).1

theorem hops_behind :
    reach.hops.2 = (reach.nextHop ++ reach.behindHop).drop
      (hopOctets reach.routes.afi reach.nextHop.length) :=
  (nextHops_takes _ _ _).2

theorem parsed_iff {parsed : MPReachNLRI} :
    mpReachNLRI reach.encode = .ok parsed ↔
      ∃ numSnpas snpas routeData announced,
        unpackBe 1 (reach.hops.2.take 1) = .ok numSnpas ∧
        Bgp.snpas numSnpas (reach.hops.2.drop 1) = .ok (snpas, routeData) ∧
        routesOf reach.routes.afi routeData = .ok announced ∧
        parsed =
          { afi := reach.routes.afi, safi := reach.safi.toNat
            nextHop := reach.nextHop, nextHops := reach.hops.1, snpas
            announced } := by
  unfold mpReachNLRI encode
  rw [packetInit_eq_ok,
    takeHeader_append 3 (familyHeader_length reach.routes reach.safi), ok_bind]
  dsimp only
  rw [unpackBe_byte, ok_bind, count_toNat reach.nextHopShort, familyHeader_afi,
    familyHeader_safi, List.drop_succ_cons, List.drop_zero, List.take_left]
  change (do
    let numSnpas ← unpackBe 1 (reach.hops.2.take 1)
    let walked ← Bgp.snpas numSnpas (reach.hops.2.drop 1)
    let announced ← routesOf reach.routes.afi walked.2
    .ok
      { afi := reach.routes.afi, safi := reach.safi.toNat
        nextHop := reach.nextHop, nextHops := reach.hops.1, snpas := walked.1
        announced }) = Except.ok parsed ↔ _
  constructor
  · intro done
    obtain ⟨numSnpas, count, others⟩ := bind_eq_ok.mp done
    obtain ⟨⟨points, routeData⟩, walked, rest⟩ := bind_eq_ok.mp others
    obtain ⟨announced, routes, same⟩ := bind_eq_ok.mp rest
    rw [Except.ok.injEq] at same
    exact ⟨numSnpas, points, routeData, announced, count, walked, routes,
      same.symm⟩
  · rintro ⟨numSnpas, points, routeData, announced, count, walked, routes,
      same⟩
    rw [count, ok_bind, walked, ok_bind]
    dsimp only
    rw [routes, ok_bind, same]

variable {reach}

theorem hops_of_whole (whole : reach.WholeHops) :
    reach.hops.1.flatten = reach.nextHop ∧ reach.hops.2 = reach.behindHop := by
  have octets := (hopOctets_eq_iff _ _).mpr whole
  rw [hops_flatten, hops_behind, octets, List.take_left, List.drop_left]
  exact ⟨rfl, rfl⟩

theorem restored (whole : reach.WholeHops) (complete : reach.routes.Complete) :
    ∃ parsed, mpReachNLRI reach.encode = .ok parsed ∧
      parsed.size = reach.encode.length ∧ parsed.bytes = .ok reach.encode := by
  obtain ⟨hops, behind⟩ := hops_of_whole whole
  obtain ⟨announced, routes, size, written⟩ := Routes.items complete
  refine ⟨_, reach.parsed_iff.mpr ⟨reach.snpas.length,
    reach.snpas.map WireSnpa.parsed, reach.routes.encode, announced, ?_, ?_,
    routes, rfl⟩, ?_, ?_⟩
  · rw [behind]
    unfold behindHop
    rw [unpackBe_byte, count_toNat reach.fewSnpas]
  · rw [behind]
    unfold behindHop
    rw [List.drop_succ_cons, List.drop_zero, snpas_encode]
  · unfold MPReachNLRI.size encode behindHop
    dsimp only
    rw [sum_hops, hops, snpas_size, size, List.length_append,
      familyHeader_length, List.length_cons, List.length_append,
      List.length_cons, List.length_append]
    omega
  · unfold MPReachNLRI.bytes encode behindHop
    dsimp only
    rw [familyHeader_packs, ok_bind, sum_hops, hops,
      packBe_byte reach.nextHopShort, ok_bind, List.length_map,
      packBe_byte reach.fewSnpas, ok_bind, snpas_bytes, ok_bind, written,
      ok_bind]
    rw [List.append_assoc, List.append_assoc, List.append_assoc,
      List.append_assoc]
    rfl

/-- The length octet written is that of the next hops taken, and these are more
than announced when they are not whole. -/
theorem whole_of_written {parsed : MPReachNLRI} {encoded more after : Bytes}
    (read : mpReachNLRI reach.encode = .ok parsed)
    (written : parsed.bytes = .ok encoded)
    (same : encoded ++ more = reach.encode ++ after) :
    reach.WholeHops ∧ reach.routes.Complete := by
  obtain ⟨numSnpas, points, routeData, announced, count, walked, routes,
    fields⟩ := reach.parsed_iff.mp read
  have taken : reach.hops.1.flatten.length = reach.nextHop.length := by
    rw [fields] at written
    unfold MPReachNLRI.bytes at written
    obtain ⟨hdr, packedHeader, rest⟩ := bind_eq_ok.mp written
    obtain ⟨nlen, packedLength, rest⟩ := bind_eq_ok.mp rest
    obtain ⟨_number, _packedNumber, rest⟩ := bind_eq_ok.mp rest
    obtain ⟨_points, _joinedPoints, rest⟩ := bind_eq_ok.mp rest
    obtain ⟨_routes, _joinedRoutes, done⟩ := bind_eq_ok.mp rest
    rw [familyHeader_packs, Except.ok.injEq] at packedHeader
    obtain ⟨small, octet⟩ := packBe_eq_ok packedLength
    rw [sum_hops] at small octet
    rw [Except.ok.injEq] at done
    rw [← done, ← packedHeader, octet] at same
    unfold encode at same
    rw [List.append_assoc, List.append_assoc, List.append_assoc,
      List.append_assoc, List.append_assoc, List.append_assoc,
      List.append_cancel_left_eq] at same
    have lengths := congrArg UInt8.toNat (List.cons.inj same).1
    rw [count_toNat small, count_toNat reach.nextHopShort] at lengths
    exact lengths
  have whole : reach.WholeHops := by
    unfold WholeHops
    rw [← hopOctets_eq_iff]
    have least := le_hopOctets reach.routes.afi reach.nextHop.length
    have behind : 0 < reach.behindHop.length := by
      unfold behindHop
      exact Nat.succ_pos _
    rw [hops_flatten, List.length_take, List.length_append] at taken
    omega
  obtain ⟨_hops, behind⟩ := hops_of_whole whole
  unfold behindHop at behind
  rw [behind, unpackBe_byte, count_toNat reach.fewSnpas,
    Except.ok.injEq] at count
  rw [behind, ← count, List.drop_succ_cons, List.drop_zero, snpas_encode,
    Except.ok.injEq, Prod.mk.injEq] at walked
  rw [← walked.2] at routes
  exact ⟨whole, Routes.complete_of_parsed routes⟩

end Reach

theorem mpUnreach_parsed_iff (safi : UInt8) (routes : Routes)
    {parsed : MPUnreachNLRI} :
    mpUnreachNLRI (familyHeader routes safi ++ routes.encode) = .ok parsed ↔
      ∃ withdrawn, routesOf routes.afi routes.encode = .ok withdrawn ∧
        parsed = { afi := routes.afi, safi := safi.toNat, withdrawn } := by
  unfold mpUnreachNLRI
  rw [packetInit_eq_ok, takeHeader_append 3 (familyHeader_length routes safi),
    ok_bind]
  dsimp only
  rw [familyHeader_afi, familyHeader_safi, bind_eq_ok]
  constructor
  · rintro ⟨withdrawn, walked, same⟩
    rw [Except.ok.injEq] at same
    exact ⟨withdrawn, walked, same.symm⟩
  · rintro ⟨withdrawn, walked, same⟩
    rw [same]
    exact ⟨withdrawn, walked, rfl⟩

theorem wideAsNumbers_bytes (count : Nat) (data : Bytes) :
    joinBytes (packBe 4) (wideAsNumbers count data) =
      .ok (data.take (4 * (wideAsNumbers count data).length)) := by
  induction count generalizing data with
  | zero => rfl
  | succ count ih =>
      rw [wideAsNumbers]
      by_cases enough : data.length ≥ 4
      · have four : (data.take 4).length = 4 := by
          rw [List.length_take]
          omega
        have packed : packBe 4 (beNat (data.take 4)) = .ok (data.take 4) := by
          have fits := beNat_lt (data.take 4)
          have again := beBytes_beNat (data.take 4)
          rw [four] at fits again
          unfold packBe
          rw [if_pos fits, again]
        rw [if_pos enough, joinBytes, packed, ok_bind, ih, ok_bind,
          List.length_cons, Nat.mul_succ, Nat.add_comm, List.take_add]
      · rw [if_neg enough]
        exact ih data

theorem asPathSegment4_restores (type count : UInt8) (data : Bytes) :
    ∃ segment, asPathSegment4 (type :: count :: data) = .ok segment ∧
      2 ∣ segment.size ∧
      segment.bytes = .ok ((type :: count :: data).take segment.size) := by
  refine ⟨
    { type := type.toNat, len := count.toNat
      path := wideAsNumbers count.toNat data, wide := true }, ?_, ?_, ?_⟩
  · have split : type :: count :: data = [type, count] ++ data := rfl
    unfold asPathSegment4
    rw [packetInit_eq_ok, split, takeHeader_append 2 rfl, ok_bind]
    dsimp only
    rw [show beNat (cut [type, count] 0 1) = type.toNat from
        beNat_singleton type,
      show beNat (cut [type, count] 1 2) = count.toNat from
        beNat_singleton count]
  · unfold AsPathSegment.size
    rw [if_pos rfl]
    omega
  · unfold AsPathSegment.bytes AsPathSegment.size
    dsimp only
    rw [if_pos rfl, wideAsNumbers_bytes, ok_bind, packHdr_two, ok_bind,
      Nat.add_comm, List.take_succ_cons, List.take_succ_cons]
    rfl

/-- An even number of octets always makes segments. -/
theorem wide_path_restored {data : Bytes} (even : 2 ∣ data.length) :
    ∃ segments, parseAll asPathSegment4 AsPathSegment.size
        AsPathSegment.size_pos data = .ok segments ∧
      joinBytes AsPathSegment.bytes segments = .ok data := by
  induction length : data.length using Nat.strong_induction_on
    generalizing data with
  | h length' ih =>
      cases data with
      | nil => exact ⟨[], parseAll_nil, rfl⟩
      | cons type others =>
          cases others with
          | nil =>
              rw [List.length_singleton] at even
              omega
          | cons count rest =>
              obtain ⟨segment, read, evenSize, written⟩ :=
                asPathSegment4_restores type count rest
              have positive := segment.size_pos
              obtain ⟨segments, parsed, joined⟩ := ih
                ((type :: count :: rest).drop segment.size).length
                (by
                  rw [List.length_drop]
                  rw [List.length_cons] at length ⊢
                  omega)
                (by
                  rw [List.length_drop]
                  exact Nat.dvd_sub even evenSize) rfl
              refine ⟨segment :: segments, ?_, ?_⟩
              · rw [parseAll_of_ne_nil (List.cons_ne_nil _ _), read, ok_bind,
                  parsed, ok_bind]
              · rw [joinBytes, written, ok_bind, joined, ok_bind,
                  List.take_append_drop]

/-- The octets of a path come back, though its segments may not. -/
theorem asPath_restored (segments : List AsSegment) :
    ∃ value, asPath (encodePath segments) = .ok value ∧
      value.size = (encodePath segments).length ∧
        value.bytes = .ok (encodePath segments) := by
  by_cases six : (encodePath segments).length = 6
  · obtain ⟨parsed, walked, joined⟩ := wide_path_restored
      (show 2 ∣ (encodePath segments).length by omega)
    refine ⟨.asPath parsed, ?_, ?_, joined⟩
    · unfold asPath
      rw [packetInit_eq_ok]
      dsimp only
      rw [if_pos six, walked, ok_bind]
    · exact parseAll_sizes
        (fun _data _item read => (asPathSegment4_within read).2) walked
  · have parses : ∀ segment ∈ segments,
        Parses (if (encodePath segments).length = 6 then asPathSegment4
          else asPathSegment) AsPathSegment.size segment.encode
          segment.decoded := by
      intro segment _member
      rw [if_neg six]
      exact asPathSegment_parses segment
    obtain ⟨parsed, joined⟩ := asPath_decodes AsSegment.decoded parses
      (fun segment _member => segment.decoded_bytes)
    refine ⟨_, parsed, ?_, joined⟩
    rw [AttributeValue.size, encodePath, List.length_flatMap, List.map_map]
    congr 1
    apply List.map_congr_left
    intro segment _member
    exact (asPathSegment_parses segment).size_eq

end DpktNg.Bgp
