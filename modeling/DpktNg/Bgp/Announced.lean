/-
The prefixes that an UPDATE announces.  `Update` takes an entry for one with a
path identifier whenever nine divides the number of octets that are left, so
the sizes of all the ends of the list decide what it returns.
-/

import DpktNg.Bgp.RestoredContents

namespace DpktNg.Bgp

open Library

namespace WireUpdate

variable (message : WireUpdate)

theorem bgp_parsed_iff {parsed : Message} :
    bgp message.encode = .ok parsed ↔
      ∃ found, update message.body = .ok found ∧
        parsed = { marker := message.marker, len := message.total, type := 2
                   body := .update found } := by
  have frontLength : (message.marker ++ beBytes 2 message.total).length = 18 := by
    rw [List.length_append, message.marker_length, beBytes_length]
  have marker : message.header.take 16 = message.marker := by
    unfold header
    rw [List.append_assoc]
    exact List.take_left' message.marker_length
  have lenRead : beNat (cut message.header 16 18) = message.total := by
    unfold header cut
    rw [List.append_assoc, List.drop_left' message.marker_length,
      List.take_left' (beBytes_length 2 _)]
    exact beNat_beBytes message.fits
  have typeRead : beNat (cut message.header 18 19) = 2 := by
    unfold header cut
    rw [List.drop_left' frontLength]
    rfl
  have whole : cutTo message.body ((message.total : Int) - 19) =
      message.body := by
    have length := message.body_length
    unfold cutTo
    rw [if_pos (by omega)]
    exact List.take_of_length_le (by omega)
  unfold bgp encode
  rw [packetInit_eq_ok, takeHeader_append 19 message.header_length, ok_bind]
  dsimp only
  rw [lenRead, typeRead, whole, marker, bind_eq_ok]
  constructor
  · rintro ⟨content, read, same⟩
    obtain ⟨found, parsedUpdate, done⟩ := bind_eq_ok.mp read
    cases done
    rw [Except.ok.injEq] at same
    exact ⟨found, parsedUpdate, same.symm⟩
  · rintro ⟨found, parsedUpdate, same⟩
    refine ⟨.update found, ?_, ?_⟩
    · change (update message.body >>= fun found =>
        pure (Body.update found)) = _
      rw [parsedUpdate]
      rfl
    · rw [same]

theorem attributes_short :
    (encodeAttributes message.attributes).length < 256 ^ 2 := by
  have fits := message.fits
  omega

theorem update_parsed_iff {found : Update} :
    update message.body = .ok found ↔
      ∃ attributes behind announced,
        parseCounted pathAttribute Attribute.size Attribute.size_pos
          (encodeAttributes message.attributes).length
          (encodeAttributes message.attributes ++
            encodePrefixes message.announced) = .ok (attributes, behind) ∧
        parseAll announcedRoute Route.size Route.size_pos behind =
          .ok announced ∧
        found = { withdrawn := [], attributes, announced } := by
  have zero : unpackBe 2 (beBytes 2 0) = .ok 0 := rfl
  have width := beBytes_length 2 (encodeAttributes message.attributes).length
  have plenRead : unpackBe 2
      (beBytes 2 (encodeAttributes message.attributes).length) =
        .ok (encodeAttributes message.attributes).length := by
    unfold unpackBe
    rw [if_pos width, beNat_beBytes message.attributes_short]
  unfold update body
  rw [packetInit_eq_ok, List.take_left' (beBytes_length 2 0), zero, ok_bind,
    List.drop_left' (beBytes_length 2 0), Nat.cast_zero, parseCounted_zero,
    ok_bind]
  dsimp only
  rw [List.take_left' width, plenRead, ok_bind, List.drop_left' width,
    bind_eq_ok]
  constructor
  · rintro ⟨⟨attributes, behind⟩, walked, rest⟩
    obtain ⟨announced, parsed, same⟩ := bind_eq_ok.mp rest
    rw [Except.ok.injEq] at same
    exact ⟨attributes, behind, announced, walked, parsed, same.symm⟩
  · rintro ⟨attributes, behind, announced, walked, parsed, same⟩
    refine ⟨(attributes, behind), walked, ?_⟩
    dsimp only
    rw [parsed, same]
    rfl

theorem bytes_written_iff {attributes : List Attribute}
    {announced : List Route} {encoded : Bytes} :
    Message.bytes
        { marker := message.marker, len := message.total, type := 2
          body := .update { withdrawn := [], attributes, announced } } =
        .ok encoded ↔
      ∃ plen attrs routes,
        packBe 2 (attributes.map Attribute.size).sum = .ok plen ∧
        joinBytes Attribute.bytes attributes = .ok attrs ∧
        joinBytes Route.bytes announced = .ok routes ∧
        encoded = message.header ++
          (beBytes 2 0 ++ (plen ++ (attrs ++ routes))) := by
  have marker : packString 16 message.marker = message.marker :=
    List.take_left' message.marker_length
  have packed : packHdr [(2, message.total), (1, 2)] =
      .ok (beBytes 2 message.total ++ [2]) := by
    rw [packHdr_ok]
    · rfl
    · intro field member
      rcases List.mem_pair.mp member with here | here
      · rw [here]
        exact message.fits
      · rw [here]
        decide
  have withdrawnLength : packBe 2 (routesSize []) = .ok (beBytes 2 0) := rfl
  unfold Message.bytes header
  dsimp only
  rw [packed, ok_bind, marker, Body.bytes, Update.bytes]
  dsimp only
  rw [withdrawnLength, ok_bind, joinBytes, ok_bind, bind_eq_ok]
  constructor
  · rintro ⟨found, written, same⟩
    obtain ⟨plen, length, rest⟩ := bind_eq_ok.mp written
    obtain ⟨attrs, joined, rest⟩ := bind_eq_ok.mp rest
    obtain ⟨routes, joinedRoutes, done⟩ := bind_eq_ok.mp rest
    rw [Except.ok.injEq] at same done
    refine ⟨plen, attrs, routes, length, joined, joinedRoutes, ?_⟩
    rw [← same, ← done, List.append_nil]
    simp only [List.append_assoc]
  · rintro ⟨plen, attrs, routes, length, joined, joinedRoutes, same⟩
    refine ⟨beBytes 2 0 ++ [] ++ plen ++ attrs ++ routes, ?_, ?_⟩
    · rw [length, ok_bind, joined, ok_bind, joinedRoutes, ok_bind]
    · rw [same, List.append_nil]
      simp only [List.append_assoc]

end WireUpdate

/-- No end of the list has a number of octets that nine divides. -/
def Unambiguous (list : List Prefix) : Prop :=
  ∀ rest, rest <:+ list → rest ≠ [] → (encodePrefixes rest).length % 9 ≠ 0

theorem encodePrefixes_cons (route : Prefix) (rest : List Prefix) :
    encodePrefixes (route :: rest) = route.encode ++ encodePrefixes rest := by
  unfold encodePrefixes
  rw [List.flatMap_cons]

theorem encodePrefixes_cons_ne_nil (route : Prefix) (rest : List Prefix) :
    encodePrefixes (route :: rest) ≠ [] := by
  rw [encodePrefixes_cons]
  exact List.cons_ne_nil _ _

theorem announced_parses {list : List Prefix} (plain : Unambiguous list) :
    parseAll announcedRoute Route.size Route.size_pos (encodePrefixes list) =
      .ok (list.map Prefix.ipv4) := by
  induction list with
  | nil => exact parseAll_nil
  | cons route rest ih =>
      have here := plain _ List.suffix_rfl (List.cons_ne_nil route rest)
      have others : Unambiguous rest := by
        intro behind suffix
        exact plain behind (suffix.trans (List.suffix_cons route rest))
      have parses := route.ipv4_parses
      have first : announcedRoute (encodePrefixes (route :: rest)) =
          .ok route.ipv4 := by
        unfold announcedRoute
        rw [if_neg here, encodePrefixes_cons]
        exact parses.parsed _
      rw [parseAll_of_ne_nil (encodePrefixes_cons_ne_nil route rest), first,
        ok_bind, encodePrefixes_cons, parses.drop, ih others]
      rfl

theorem announced_written (list : List Prefix) :
    joinBytes Route.bytes (list.map Prefix.ipv4) =
      .ok (encodePrefixes list) := by
  unfold encodePrefixes
  rw [List.flatMap_def]
  apply joinBytes_chunks
  rw [List.forall₂_map_left_iff, List.forall₂_map_right_iff, List.forall₂_same]
  intro route _member
  exact route.ipv4_bytes

/-- The octets that an entry has more than its prefix. -/
def Route.pathIdOctets : Route → Nat
  | .extendedIpv4 _ _ _ => 4
  | _ => 0

theorem paddedAddress_length {len : Nat} (bound : len ≤ 32) (data : Bytes) :
    octets len ≤ (paddedAddress 4 len data).length := by
  have small : octets len ≤ 4 := by
    unfold octets
    omega
  unfold paddedAddress
  dsimp only
  rw [List.length_append, zeros_length]
  omega

theorem routeIPV4_eq_ok {data : Bytes} {route : Route}
    (read : routeIPV4 data = .ok route) :
    ∃ len behind, route = .ipv4 len (paddedAddress 4 len behind) := by
  unfold routeIPV4 at read
  rw [packetInit_eq_ok] at read
  obtain ⟨⟨header, behind⟩, _split, done⟩ := bind_eq_ok.mp read
  cases done
  exact ⟨beNat header, behind, rfl⟩

theorem extendedRouteIPV4_eq_ok {data : Bytes} {route : Route}
    (read : extendedRouteIPV4 data = .ok route) :
    ∃ pathId len behind,
      route = .extendedIpv4 pathId len (paddedAddress 4 len behind) := by
  unfold extendedRouteIPV4 at read
  rw [packetInit_eq_ok] at read
  obtain ⟨⟨header, behind⟩, _split, done⟩ := bind_eq_ok.mp read
  cases done
  exact ⟨beNat (cut header 0 4), beNat (cut header 4 5), behind, rfl⟩

theorem shortened_length {fields : List (Nat × Nat)} {header behind : Bytes}
    {len : Nat} (packed : packHdr fields = .ok header) (ipv4 : len ≤ 32) :
    (header ++ (paddedAddress 4 len behind).take (octets len)).length =
      (fields.map Prod.fst).sum + octets len := by
  have enough := paddedAddress_length ipv4 behind
  rw [List.length_append, packHdr_length packed, List.length_take,
    Nat.min_eq_left enough]

/-- An octet for the length and the octets of the address, behind so much else
in the header. -/
theorem written_length {route : Route} {fields : List (Nat × Nat)} {len : Nat}
    {wanted : Prefix} {behind encoded : Bytes}
    (writes : route.bytes = (do
      .ok ((← packHdr fields) ++ (paddedAddress 4 len behind).take
        (octets len))))
    (lens : len = wanted.len.toNat)
    (written : route.bytes = .ok encoded) (ipv4 : wanted.len.toNat ≤ 32) :
    encoded.length = (fields.map Prod.fst).sum + octets wanted.len.toNat := by
  rw [← lens] at ipv4 ⊢
  rw [writes] at written
  obtain ⟨header, packed, done⟩ := bind_eq_ok.mp written
  rw [Except.ok.injEq] at done
  rw [← done, shortened_length packed ipv4]

/-- What an announced route is written as, when its length is that of an IPv4
prefix. -/
theorem announced_length {data encoded : Bytes} {route : Route}
    {wanted : Prefix} (read : announcedRoute data = .ok route)
    (written : route.bytes = .ok encoded)
    (same : route.lenAndAddress = wanted.ipv4.lenAndAddress)
    (ipv4 : wanted.len.toNat ≤ 32) :
    encoded.length = wanted.encode.length + route.pathIdOctets := by
  rw [wanted.encode_length]
  unfold announcedRoute at read
  split at read
  · obtain ⟨pathId, len, behind, fields⟩ := extendedRouteIPV4_eq_ok read
    rw [fields] at written same ⊢
    have lens : len = wanted.len.toNat :=
      (Prod.mk.inj (Option.some.inj same)).1
    rw [written_length rfl lens written ipv4]
    change 5 + octets _ = 1 + octets _ + 4
    omega
  · obtain ⟨len, behind, fields⟩ := routeIPV4_eq_ok read
    rw [fields] at written same ⊢
    have lens : len = wanted.len.toNat :=
      (Prod.mk.inj (Option.some.inj same)).1
    rw [written_length rfl lens written ipv4]
    rfl

/-- Routes with the lengths of the prefixes: every path identifier is written in
addition to the octets of the prefixes. -/
theorem announced_octets {list : List Prefix} {routes : List Route}
    {data joined : Bytes}
    (parsed : parseAll announcedRoute Route.size Route.size_pos data =
      .ok routes)
    (written : joinBytes Route.bytes routes = .ok joined)
    (same : routes.map Route.lenAndAddress =
      list.map fun route => route.ipv4.lenAndAddress)
    (ipv4 : ∀ route ∈ list, route.len.toNat ≤ 32) :
    joined.length = (encodePrefixes list).length +
      (routes.map Route.pathIdOctets).sum := by
  induction routes generalizing list data joined with
  | nil =>
      have none_ := List.map_eq_nil_iff.mp same.symm
      cases written
      rw [none_]
      rfl
  | cons route rest ih =>
      cases list with
      | nil => cases same
      | cons wanted others =>
          rw [List.map_cons, List.map_cons, List.cons.injEq] at same
          rw [List.forall_mem_cons] at ipv4
          obtain ⟨read, walked⟩ := parseAll_eq_cons parsed
          obtain ⟨encoded, here, join⟩ := bind_eq_ok.mp written
          obtain ⟨joined', joinedRest, done⟩ := bind_eq_ok.mp join
          rw [Except.ok.injEq] at done
          have length := announced_length read here same.1 ipv4.1
          have lengths := ih walked joinedRest same.2 ipv4.2
          rw [← done, encodePrefixes_cons, List.length_append,
            List.length_append, List.map_cons, List.sum_cons, length, lengths]
          omega

theorem unambiguous_of_parsed {list : List Prefix} {routes : List Route}
    (parsed : parseAll announcedRoute Route.size Route.size_pos
      (encodePrefixes list) = .ok routes)
    (plain : ∀ route ∈ routes, route.pathIdOctets = 0) :
    Unambiguous list := by
  induction list generalizing routes with
  | nil =>
      intro rest suffix someRest
      exact absurd (List.suffix_nil.mp suffix) someRest
  | cons wanted others ih =>
      rw [parseAll_of_ne_nil (encodePrefixes_cons_ne_nil wanted others)]
        at parsed
      obtain ⟨first, read, walk⟩ := bind_eq_ok.mp parsed
      obtain ⟨more, walked, done⟩ := bind_eq_ok.mp walk
      cases done
      rw [List.forall_mem_cons] at plain
      unfold announcedRoute at read
      by_cases nine : (encodePrefixes (wanted :: others)).length % 9 = 0
      · rw [if_pos nine] at read
        obtain ⟨pathId, len, behind, fields⟩ := extendedRouteIPV4_eq_ok read
        have impossible := plain.1
        rw [fields] at impossible
        cases impossible
      · rw [if_neg nine] at read
        have parses := wanted.ipv4_parses
        rw [encodePrefixes_cons] at read walked
        rw [parses.parsed, Except.ok.injEq] at read
        rw [← read, parses.drop] at walked
        intro rest suffix someRest
        rcases List.suffix_cons_iff.mp suffix with here | later
        · rw [here]
          exact nine
        · exact ih walked plain.2 rest later someRest

namespace WireUpdate

variable (message : WireUpdate)

/-- `BGP` returns the prefixes in order, with their lengths and addresses, and
writes the same message again. -/
def ComesBack : Prop :=
  ∃ parsed found, bgp message.encode = .ok parsed ∧
    parsed.body = .update found ∧
    found.announced.map Route.lenAndAddress =
      message.announced.map (fun route => route.ipv4.lenAndAddress) ∧
    parsed.bytes = .ok message.encode

variable {message}

theorem comesBack (readable : AllReadable message.attributes)
    (plain : Unambiguous message.announced) : message.ComesBack := by
  obtain ⟨attributes, walked, size, joined⟩ :=
    attributes_restored readable (encodePrefixes message.announced)
  have updated := message.update_parsed_iff.mpr
    ⟨attributes, _, _, walked, announced_parses plain, rfl⟩
  have parsed := message.bgp_parsed_iff.mpr ⟨_, updated, rfl⟩
  refine ⟨_, _, parsed, rfl, ?_, ?_⟩
  · dsimp only
    rw [List.map_map]
    rfl
  · apply message.bytes_written_iff.mpr
    refine ⟨_, _, _, ?_, joined, announced_written message.announced, rfl⟩
    rw [size]
    exact if_pos message.attributes_short

theorem readable_of_comesBack (back : message.ComesBack) :
    AllReadable message.attributes ∧ Unambiguous message.announced := by
  obtain ⟨parsed, found, read, content, same, written⟩ := back
  obtain ⟨found', updated, fields⟩ := message.bgp_parsed_iff.mp read
  rw [fields] at content written
  cases content
  obtain ⟨attributes, behind, announced, walked, routes, fields⟩ :=
    message.update_parsed_iff.mp updated
  rw [fields] at same written
  obtain ⟨plen, attrs, encoded, length, joined, joinedRoutes, whole⟩ :=
    message.bytes_written_iff.mp written
  obtain ⟨_fits, plenBytes⟩ := packBe_eq_ok length
  unfold encode at whole
  rw [List.append_cancel_left_eq, body, List.append_cancel_left_eq] at whole
  have parts := (List.append_inj whole
    (by rw [plenBytes, beBytes_length, beBytes_length])).2
  have readable := attributes_readable walked joined parts.symm
  refine ⟨readable, ?_⟩
  obtain ⟨items, again, _size, joinedItems⟩ :=
    attributes_restored readable (encodePrefixes message.announced)
  rw [again, Except.ok.injEq, Prod.mk.injEq] at walked
  rw [← walked.1, joinedItems, Except.ok.injEq] at joined
  rw [← joined, List.append_cancel_left_eq] at parts
  rw [← walked.2] at routes
  have octets := announced_octets routes joinedRoutes same message.ipv4
  rw [parts] at octets
  apply unambiguous_of_parsed routes
  intro route member
  have none_ : (announced.map Route.pathIdOctets).sum = 0 := by omega
  exact List.sum_eq_zero_iff.mp none_ _ (List.mem_map_of_mem member)

/-- The message comes back when its attributes are readable and no end of the
prefixes is ambiguous, and then only. -/
theorem comesBack_iff (message : WireUpdate) :
    message.ComesBack ↔
      AllReadable message.attributes ∧ Unambiguous message.announced := by
  constructor
  · intro back
    exact readable_of_comesBack back
  · rintro ⟨readable, plain⟩
    exact comesBack readable plain

/-- Nine octets of prefixes: 10.0.0.0/32 and 10.0.0.0/24 are one entry with a
path identifier. -/
theorem nine_octets_do_not_come_back :
    ¬ ∀ message : WireUpdate, message.ComesBack := by
  intro always
  have back := always
    { marker := List.replicate 16 0xff
      marker_length := rfl
      attributes := []
      announced :=
        [{ len := 32, address := [10, 0, 0, 0], octets_eq := rfl },
         { len := 24, address := [10, 0, 0], octets_eq := rfl }]
      ipv4 := by decide
      fits := by decide }
  exact (readable_of_comesBack back).2 _ List.suffix_rfl
    (List.cons_ne_nil _ _) rfl

end WireUpdate

end DpktNg.Bgp
