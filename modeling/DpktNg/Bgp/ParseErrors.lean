/-
Which errors parsing a message raises, dpkt/bgp.py.  The classes without a
header turn `struct.error` into `AttributeError`, and EVPN routes are indexed
byte by byte; what decides about both follows from the layout of the buffer.

So the errors that leave a constructor are those of the library for classes with
a header, dpkt/dpkt.py, and for `BGP(buf)` as long as its UPDATE passes the
places where the classes without one fail.
-/

import DpktNg.Bgp.RestoredContents
import DpktNg.Python.LoopChecks

namespace DpktNg.Bgp

open Library

/-! ### What is examined -/

/-- The places of a message that can raise an error not of the library: a
two-octet length field, a list of four-octet words, and an EVPN route. -/
inductive Examined where
  | lengthField (data : Bytes)
  | words (data : Bytes)
  | evpn (type : Nat) (routeData : Bytes)

/-- A length field that is cut off, words that are not whole, and a route that
ends before one of its length octets. -/
def Examined.Bad : Examined → Prop
  | .lengthField data => data.length < 2
  | .words data => ¬4 ∣ data.length
  | .evpn type routeData => ¬EvpnComplete type routeData

instance : DecidablePred Examined.Bad := fun examined => by
  cases examined <;> unfold Examined.Bad <;> infer_instance

abbrev Seen (β : Type) := Shown Examined β

/-- `RouteIPV4` and `RouteIPV6` -/
def plainShown : Bytes → Seen Nat
  | [] => .stop
  | len :: _ => .pass (1 + octets len.toNat)

def genericShown : Bytes → Seen Nat
  | [] => .stop
  | len :: rest => .pass (1 + min (octets len.toNat) rest.length)

def extendedShown (buf : Bytes) : Seen Nat :=
  (Shown.require (5 ≤ buf.length)).andThen fun _ =>
    .pass (5 + octets (beNat (cut buf 4 5)))

def evpnShown : Bytes → Seen Nat
  | type :: len :: data =>
      ⟨[.evpn type.toNat (data.take len.toNat)], some (2 + len.toNat)⟩
  | _ => .stop

def routeShown (afi : Nat) (buf : Bytes) : Seen Nat :=
  if afi = afiIpv4 then plainShown buf
  else if afi = afiIpv6 then plainShown buf
  else if afi = afiL2vpn then evpnShown buf
  else genericShown buf

def snpaShown : Bytes → Seen Nat
  | [] => .stop
  | len :: rest => .pass (1 + min ((len.toNat + 1) / 2) rest.length)

def snpasShown : Nat → Bytes → Seen (Nat × Bytes)
  | 0, data => .pass (0, data)
  | count + 1, data =>
      (snpaShown data).andThen fun size =>
        (snpasShown count (data.drop size)).andThen fun others =>
          .pass (size + others.1, others.2)

def reachShown (buf : Bytes) : Seen Nat :=
  (Shown.require (3 ≤ buf.length)).andThen fun _ =>
    (Shown.require (4 ≤ buf.length)).andThen fun _ =>
      let hops := hopOctets (beNat (cut buf 0 2)) (beNat (cut buf 3 4))
      let behind := buf.drop (4 + hops)
      (Shown.require (1 ≤ behind.length)).andThen fun _ =>
        (snpasShown (beNat (behind.take 1)) (behind.drop 1)).andThen
          fun snpas =>
            (itemsShown (routeShown (beNat (cut buf 0 2))) snpas.2).andThen
              fun routes =>
                .pass (4 + min hops (buf.length - 4) + 1 + snpas.1 + routes)

def unreachShown (buf : Bytes) : Seen Nat :=
  (Shown.require (3 ≤ buf.length)).andThen fun _ =>
    (itemsShown (routeShown (beNat (cut buf 0 2))) (buf.drop 3)).andThen
      fun routes => .pass (3 + routes)

/-- A path segment, by the width of its numbers. -/
def segmentShown (wide : Bool) : Bytes → Seen Nat
  | _type :: count :: rest =>
      if wide then .pass (2 + 4 * min count.toNat (rest.length / 4))
      else
        (Shown.require (2 * count.toNat ≤ rest.length)).andThen fun _ =>
          .pass (2 + 2 * count.toNat)
  | _ => .stop

def headerShown (hdrLen : Nat) (buf : Bytes) : Seen Nat :=
  (Shown.require (hdrLen ≤ buf.length)).andThen fun _ => .pass buf.length

def valueShown (type : Nat) (data : Bytes) : Seen Nat :=
  match type with
  | 1 => headerShown 1 data
  | 2 => itemsShown (segmentShown (data.length = 6)) data
  | 3 => headerShown 4 data
  | 4 => headerShown 4 data
  | 5 => headerShown 4 data
  | 6 => .pass 0
  | 7 => headerShown 6 data
  | 8 => ⟨[.words data], some data.length⟩
  | 9 => headerShown 4 data
  | 10 => ⟨[.words data], some data.length⟩
  | 14 => reachShown data
  | 15 => unreachShown data
  | _ => .pass data.length

def attributeShown (buf : Bytes) : Seen Nat :=
  (Shown.require (2 ≤ buf.length)).andThen fun _ =>
    let width := lengthWidth (beNat (cut buf 0 1))
    (Shown.require (2 + width ≤ buf.length)).andThen fun _ =>
      let len := beNat (cut buf 2 (2 + width))
      (valueShown (beNat (cut buf 1 2))
        (cut buf (2 + width) (2 + width + len))).andThen fun size =>
          .pass (2 + width + size)

def announcedShown (data : Bytes) : Seen Nat :=
  if data.length % 9 = 0 then extendedShown data else plainShown data

def lengthShown (data : Bytes) : Seen Nat :=
  ⟨[.lengthField data], some (beNat (data.take 2))⟩

def updateShown (buf : Bytes) : Seen Unit :=
  (lengthShown buf).andThen fun wlen =>
    (countedShown plainShown wlen (buf.drop 2)).andThen fun data =>
      (lengthShown data).andThen fun plen =>
        (countedShown attributeShown plen (data.drop 2)).andThen fun data =>
          (itemsShown announcedShown data).andThen fun _routes => .pass ()

def messageType (buf : Bytes) : Nat := beNat (cut buf 18 19)

def messageBody (buf : Bytes) : Bytes :=
  cutTo (buf.drop 19) ((beNat (cut buf 16 18) : Int) - 19)

/-- What parsing a message examines. -/
def examined (buf : Bytes) : List Examined :=
  if 19 ≤ buf.length ∧ messageType buf = 2 then
    (updateShown (messageBody buf)).texts
  else []

/-! ### Routes -/

theorem byteHeader_checks {α : Type} {parse : Bytes → Except PyError α}
    {size : α → Nat} {shown : Bytes → Seen Nat} (empty : shown [] = .stop)
    (short : parse [] = .error (PyError.tooShort 0 1))
    (each : ∀ byte rest, ∃ item, parse (byte :: rest) = .ok item ∧
      shown (byte :: rest) = .pass (size item))
    (buf : Bytes) :
    Checks PyError.IsUnpackError Examined.Bad size (shown buf)
      (parse buf) := by
  cases buf with
  | nil =>
      rw [empty, short]
      exact Checks.error trivial
  | cons byte rest =>
      obtain ⟨item, read, passed⟩ := each byte rest
      rw [read, passed]
      exact Checks.ok rfl

theorem routeIPV4_checks (buf : Bytes) :
    Checks PyError.IsUnpackError Examined.Bad Route.size (plainShown buf)
      (routeIPV4 buf) := by
  apply byteHeader_checks rfl rfl
  intro len rest
  refine ⟨.ipv4 len.toNat (paddedAddress 4 len.toNat rest), ?_, ?_⟩
  · unfold routeIPV4
    rw [packetInit_eq_ok, takeHeader_byte, ok_bind]
    dsimp only
    rw [beNat_singleton]
  · rw [Route.size]
    rfl

theorem routeIPV6_checks (buf : Bytes) :
    Checks PyError.IsUnpackError Examined.Bad Route.size (plainShown buf)
      (routeIPV6 buf) := by
  apply byteHeader_checks rfl rfl
  intro len rest
  refine ⟨.ipv6 len.toNat (paddedAddress 16 len.toNat rest), ?_, ?_⟩
  · unfold routeIPV6
    rw [packetInit_eq_ok, takeHeader_byte, ok_bind]
    dsimp only
    rw [beNat_singleton]
  · rw [Route.size]
    rfl

theorem routeGeneric_checks (buf : Bytes) :
    Checks PyError.IsUnpackError Examined.Bad Route.size (genericShown buf)
      (routeGeneric buf) := by
  apply byteHeader_checks rfl rfl
  intro len rest
  refine ⟨.generic len.toNat (rest.take (octets len.toNat)), ?_, ?_⟩
  · unfold routeGeneric
    rw [packetInit_eq_ok, takeHeader_byte, ok_bind]
    dsimp only
    rw [beNat_singleton]
  · rw [Route.size, List.length_take]
    rfl

theorem extendedRouteIPV4_checks (buf : Bytes) :
    Checks PyError.IsUnpackError Examined.Bad Route.size (extendedShown buf)
      (extendedRouteIPV4 buf) := by
  apply packetInit_checks
  apply takeHeader_checks
  intro _enough
  dsimp only
  apply Checks.ok
  rw [cut_take (Nat.le_refl 5)]
  rfl

theorem routeEVPN_checks (buf : Bytes) :
    Checks PyError.IsUnpackError Examined.Bad Route.size (evpnShown buf)
      (routeEVPN buf) := by
  match buf with
  | [] =>
      change Checks _ _ _ .stop (.error (PyError.tooShort 0 2))
      exact Checks.error trivial
  | [_type] =>
      change Checks _ _ _ .stop (.error (PyError.tooShort 1 2))
      exact Checks.error trivial
  | type :: len :: data =>
      have parsed := routeEVPN_parsed type len data
      apply Checks.one
      · intro incomplete
        rw [parsed.incomplete incomplete]
        exact escapes_error.mpr fun library => library
      · intro fine
        obtain ⟨route, read, _type, lenRead, _data⟩ :=
          parsed.complete (not_not.mp fine)
        refine ⟨.evpn route, read, ?_⟩
        rw [Route.size, lenRead]

theorem routeOf_checks (afi : Nat) (buf : Bytes) :
    Checks PyError.IsUnpackError Examined.Bad Route.size (routeShown afi buf)
      (routeOf afi buf) := by
  unfold routeShown routeOf
  split
  · exact routeIPV4_checks buf
  split
  · exact routeIPV6_checks buf
  split
  · exact routeEVPN_checks buf
  · exact routeGeneric_checks buf

theorem routeOf_notStruct (afi : Nat) (buf : Bytes) :
    routeOf afi buf ≠ .error .structError := by
  unfold routeOf
  split
  · exact packetInit_notStruct
  split
  · exact packetInit_notStruct
  split
  · exact packetInit_notStruct
  · exact packetInit_notStruct

theorem routesOf_checks (afi : Nat) (buf : Bytes) :
    Checks HeaderError Examined.Bad routesSize
      (itemsShown (routeShown afi) buf) (routesOf afi buf) := by
  apply parseAll_checks
  intro data
  exact checks_header (routeOf_notStruct afi data) (routeOf_checks afi data)

/-! ### Attribute classes -/

theorem snpa_checks (buf : Bytes) :
    Checks PyError.IsUnpackError Examined.Bad Snpa.size (snpaShown buf)
      (snpa buf) := by
  apply byteHeader_checks rfl rfl
  intro len rest
  refine ⟨{ len := len.toNat, data := rest.take ((len.toNat + 1) / 2) }, ?_, ?_⟩
  · unfold snpa
    rw [packetInit_eq_ok, takeHeader_byte, ok_bind]
    dsimp only
    rw [beNat_singleton]
  · rw [Snpa.size, List.length_take]
    rfl

theorem snpas_checks (count : Nat) (data : Bytes) :
    Checks HeaderError Examined.Bad
      (fun points : List Snpa × Bytes =>
        ((points.1.map Snpa.size).sum, points.2))
      (snpasShown count data) (snpas count data) := by
  induction count generalizing data with
  | zero => exact Checks.ok rfl
  | succ count ih =>
      rw [snpasShown, snpas]
      have first := checks_header packetInit_notStruct (snpa_checks data)
      refine first.bind fun first _read => ?_
      exact (ih (data.drop first.size)).bind fun rest _walked => Checks.ok rfl

theorem take_one_length_iff (data : Bytes) :
    (data.take 1).length = 1 ↔ 1 ≤ data.length := by
  rw [List.length_take]
  omega

theorem mpReachNLRI_checks (buf : Bytes) :
    Checks PyError.IsUnpackError Examined.Bad MPReachNLRI.size
      (reachShown buf) (mpReachNLRI buf) := by
  apply packetInit_checks
  apply takeHeader_checks
  intro _enough
  dsimp only
  have afiRead : cut (buf.take 3) 0 2 = cut buf 0 2 := cut_take (by omega)
  have nlenRead : (buf.drop 3).take 1 = cut buf 3 4 := rfl
  have nlenThere : (cut buf 3 4).length = 1 ↔ 4 ≤ buf.length := by
    unfold cut
    rw [List.length_take, List.length_drop]
    omega
  rw [afiRead, nlenRead]
  apply unpackBe_checks nlenThere
  intro _nlen
  generalize beNat (cut buf 0 2) = afi
  generalize beNat (cut buf 3 4) = nlen
  have dropped : (buf.drop 3).drop 1 = buf.drop 4 := List.drop_drop
  rw [show (if afi = afiIpv6 then 16 else 4) = hopLength afi from rfl, dropped]
  obtain ⟨hopsTaken, behind⟩ := nextHops_takes (hopLength afi)
    ((nlen + hopLength afi - 1) / hopLength afi) (buf.drop 4)
  generalize nextHops (hopLength afi)
    ((nlen + hopLength afi - 1) / hopLength afi) (buf.drop 4) = hops
    at hopsTaken behind ⊢
  change hops.1.flatten = (buf.drop 4).take (hopOctets afi nlen) at hopsTaken
  change hops.2 = (buf.drop 4).drop (hopOctets afi nlen) at behind
  rw [behind.trans List.drop_drop]
  apply unpackBe_checks (take_one_length_iff _)
  intro _count
  refine (snpas_checks _ _).bind fun points _walked => ?_
  refine (routesOf_checks afi points.2).bind fun routes _parsed => ?_
  apply Checks.ok
  unfold MPReachNLRI.size
  dsimp only
  rw [sum_hops, hopsTaken, List.length_take, List.length_drop]

theorem mpUnreachNLRI_checks (buf : Bytes) :
    Checks PyError.IsUnpackError Examined.Bad
      (fun unreach : MPUnreachNLRI => 3 + routesSize unreach.withdrawn)
      (unreachShown buf) (mpUnreachNLRI buf) := by
  apply packetInit_checks
  apply takeHeader_checks
  intro _enough
  dsimp only
  rw [show cut (buf.take 3) 0 2 = cut buf 0 2 from cut_take (by omega)]
  refine (routesOf_checks (beNat (cut buf 0 2)) (buf.drop 3)).bind
    fun routes _parsed => ?_
  exact Checks.ok rfl

/-! ### Paths and lists of words -/

theorem asNumbers_spec (count : Nat) (data : Bytes) :
    (2 * count ≤ data.length →
      ∃ numbers, asNumbers count data = .ok numbers ∧ numbers.length = count) ∧
    (data.length < 2 * count → asNumbers count data = .error .structError) := by
  induction count generalizing data with
  | zero =>
      constructor
      · intro _enough
        exact ⟨[], rfl, rfl⟩
      · intro impossible
        omega
  | succ count ih =>
      obtain ⟨whole, cutOff⟩ := ih (data.drop 2)
      rw [List.length_drop] at whole cutOff
      rw [asNumbers]
      by_cases two : (data.take 2).length = 2
      · have read : unpackBe 2 (data.take 2) = .ok (beNat (data.take 2)) :=
          if_pos two
        rw [List.length_take] at two
        rw [read, ok_bind]
        constructor
        · intro enough
          obtain ⟨numbers, others, length⟩ := whole (by omega)
          rw [others, ok_bind]
          exact ⟨_, rfl, by rw [List.length_cons, length]⟩
        · intro short
          rw [cutOff (by omega)]
          rfl
      · have failed : unpackBe 2 (data.take 2) = .error .structError :=
          if_neg two
        rw [List.length_take] at two
        rw [failed]
        constructor
        · intro enough
          omega
        · intro _short
          rfl

theorem wideAsNumbers_length (count : Nat) (data : Bytes) :
    (wideAsNumbers count data).length = min count (data.length / 4) := by
  induction count generalizing data with
  | zero => rw [wideAsNumbers, List.length_nil, Nat.zero_min]
  | succ count ih =>
      rw [wideAsNumbers]
      by_cases enough : data.length ≥ 4
      · rw [if_pos enough, List.length_cons, ih, List.length_drop]
        omega
      · rw [if_neg enough, ih]
        omega

theorem segment_checks (wide : Bool) (buf : Bytes) :
    Checks PyError.IsUnpackError Examined.Bad AsPathSegment.size
      (segmentShown wide buf)
      ((if wide then asPathSegment4 else asPathSegment) buf) := by
  match buf with
  | [] =>
      cases wide with
      | true =>
          change Checks _ _ _ .stop (.error (PyError.tooShort 0 2))
          exact Checks.error trivial
      | false =>
          change Checks _ _ _ .stop (.error (PyError.tooShort 0 2))
          exact Checks.error trivial
  | [_type] =>
      cases wide with
      | true =>
          change Checks _ _ _ .stop (.error (PyError.tooShort 1 2))
          exact Checks.error trivial
      | false =>
          change Checks _ _ _ .stop (.error (PyError.tooShort 1 2))
          exact Checks.error trivial
  | type :: count :: rest =>
      have split : takeHeader 2 (type :: count :: rest) =
          .ok ([type, count], rest) := by
        change takeHeader 2 ([type, count] ++ rest) = _
        exact takeHeader_append 2 rfl
      have countRead : beNat (cut [type, count] 1 2) = count.toNat :=
        beNat_singleton count
      cases wide with
      | true =>
          change Checks _ _ _
            (.pass (2 + 4 * min count.toNat (rest.length / 4)))
            (asPathSegment4 (type :: count :: rest))
          apply packetInit_checks
          rw [split, ok_bind]
          dsimp only
          apply Checks.ok
          rw [AsPathSegment.size, if_pos rfl, countRead, wideAsNumbers_length]
      | false =>
          change Checks _ _ _
            ((Shown.require (2 * count.toNat ≤ rest.length)).andThen fun _ =>
              .pass (2 + 2 * count.toNat))
            (asPathSegment (type :: count :: rest))
          obtain ⟨whole, cutOff⟩ := asNumbers_spec count.toNat rest
          apply packetInit_checks
          rw [split, ok_bind]
          dsimp only
          rw [countRead]
          apply Checks.require
          · intro enough
            obtain ⟨numbers, read, length⟩ := whole enough
            rw [read, ok_bind]
            apply Checks.ok
            rw [AsPathSegment.size, if_neg Bool.false_ne_true, length]
          · intro short
            rw [cutOff (by omega)]
            exact ⟨_, rfl, Or.inl rfl⟩

theorem asPath_checks (data : Bytes) :
    Checks PyError.IsUnpackError Examined.Bad AttributeValue.size
      (itemsShown (segmentShown (data.length = 6)) data) (asPath data) := by
  apply packetInit_noHeader_checks
  dsimp only
  have same : (if decide (data.length = 6) = true then asPathSegment4
      else asPathSegment) =
        if data.length = 6 then asPathSegment4 else asPathSegment := by
    by_cases six : data.length = 6
    · rw [if_pos six, if_pos (decide_eq_true six)]
    · rw [if_neg six, if_neg fun holds => six (of_decide_eq_true holds)]
  rw [← same]
  exact (parseAll_checks (segment_checks (data.length = 6)) data).map
    fun _segments => rfl

theorem parseAll_words {α : Type} (parse : Bytes → Except PyError α)
    (size : α → Nat) (positive : ∀ item, 0 < size item)
    (whole : ∀ data, 4 ≤ data.length →
      ∃ item, parse data = .ok item ∧ size item = 4)
    (cutOff : ∀ data, data.length < 4 → parse data = .error .structError)
    (data : Bytes) :
    (4 ∣ data.length → ∃ items, parseAll parse size positive data =
        .ok items ∧ (items.map size).sum = data.length) ∧
      (¬4 ∣ data.length →
        parseAll parse size positive data = .error .structError) := by
  induction length : data.length using Nat.strong_induction_on
    generalizing data with
  | h length' ih =>
      by_cases none_ : data = []
      · rw [none_, List.length_nil] at length
        rw [none_, parseAll_nil, ← length]
        constructor
        · intro _divides
          exact ⟨[], rfl, rfl⟩
        · intro impossible
          exact absurd (Nat.dvd_zero 4) impossible
      have positive_length := List.length_pos_iff.mpr none_
      rw [parseAll_of_ne_nil none_]
      by_cases enough : 4 ≤ data.length
      · obtain ⟨item, read, size_eq⟩ := whole data enough
        have shorter : (data.drop 4).length = length' - 4 := by
          rw [List.length_drop, length]
        have four : 4 ≤ length' := by omega
        have same : 4 ∣ length' - 4 ↔ 4 ∣ length' := by omega
        obtain ⟨others, failed⟩ := ih (length' - 4) (by omega) (data.drop 4)
          shorter
        rw [same] at others failed
        rw [read, ok_bind, size_eq]
        constructor
        · intro divides
          obtain ⟨items, walked, total⟩ := others divides
          rw [walked, ok_bind]
          refine ⟨item :: items, rfl, ?_⟩
          rw [List.map_cons, List.sum_cons, size_eq, total]
          exact Nat.add_sub_of_le four
        · intro odd
          rw [failed odd]
          rfl
      · rw [cutOff data (by omega)]
        constructor
        · intro divides
          omega
        · intro _odd
          rfl

theorem unpackWord_whole {data : Bytes} (enough : 4 ≤ data.length) :
    unpackBe 4 (data.take 4) = .ok (beNat (data.take 4)) := by
  apply if_pos
  rw [List.length_take]
  omega

theorem unpackWord_cutOff {data : Bytes} (short : data.length < 4) :
    unpackBe 4 (data.take 4) = .error .structError := by
  apply if_neg
  rw [List.length_take]
  omega

theorem community_whole {data : Bytes} (enough : 4 ≤ data.length) :
    ∃ item, community data = .ok item ∧ item.size = 4 := by
  unfold community
  rw [unpackWord_whole enough, ok_bind]
  split
  · exact ⟨_, rfl, rfl⟩
  · exact ⟨_, rfl, rfl⟩

theorem community_cutOff {data : Bytes} (short : data.length < 4) :
    community data = .error .structError := by
  unfold community
  rw [unpackWord_cutOff short]
  rfl

theorem words_checks {α : Type} {className : String} {data : Bytes}
    {unpack : Bytes → Except PyError AttributeValue} {size : α → Nat}
    {walk : Except PyError (List α)} {wrap : List α → AttributeValue}
    (spec : (4 ∣ data.length → ∃ items, walk = .ok items ∧
        (items.map size).sum = data.length) ∧
      (¬4 ∣ data.length → walk = .error .structError))
    (body : unpack data = walk >>= fun items => .ok (wrap items))
    (sizes : ∀ items, (wrap items).size = (items.map size).sum) :
    Checks PyError.IsUnpackError Examined.Bad AttributeValue.size
      ⟨[.words data], some data.length⟩
      (packetInit className none unpack data) := by
  apply packetInit_noHeader_checks
  rw [body]
  apply Checks.one
  · intro odd
    rw [spec.2 odd]
    exact ⟨.structError, rfl, fun library => library⟩
  · intro fine
    obtain ⟨items, walked, total⟩ := spec.1 (not_not.mp fine)
    rw [walked, ok_bind]
    exact ⟨wrap items, rfl, (sizes items).trans total⟩

theorem communities_checks (data : Bytes) :
    Checks PyError.IsUnpackError Examined.Bad AttributeValue.size
      ⟨[.words data], some data.length⟩ (communities data) :=
  words_checks
    (parseAll_words community Community.size (fun _ => Nat.succ_pos 3)
      (fun _data => community_whole) (fun _data => community_cutOff) data)
    rfl (fun _items => rfl)

theorem clusterList_checks (data : Bytes) :
    Checks PyError.IsUnpackError Examined.Bad AttributeValue.size
      ⟨[.words data], some data.length⟩ (clusterList data) :=
  words_checks
    (parseAll_words clusterId (fun _id => 4) (fun _ => Nat.succ_pos 3)
      (fun _data enough => ⟨_, unpackWord_whole enough, rfl⟩)
      (fun _data => unpackWord_cutOff) data)
    rfl (fun items => (fourOctets items).symm)

theorem headerOnly_checks {className : String} {hdrLen : Nat}
    {build : Bytes → Bytes → AttributeValue}
    (size : ∀ header rest, (build header rest).size = hdrLen + rest.length)
    (data : Bytes) :
    Checks HeaderError Examined.Bad AttributeValue.size
      (headerShown hdrLen data) (headerOnly className hdrLen build data) := by
  apply checks_header packetInit_notStruct
  apply packetInit_checks
  apply takeHeader_checks
  intro enough
  dsimp only
  apply Checks.ok
  rw [size, List.length_drop]
  omega

theorem attributeValue_checks (type : Nat) (data : Bytes) :
    Checks HeaderError Examined.Bad AttributeValue.size
      (valueShown type data) (attributeValue type data) := by
  unfold valueShown
  split <;> unfold attributeValue
  · exact headerOnly_checks (fun _ _ => rfl) data
  · exact checks_header packetInit_notStruct (asPath_checks data)
  · exact headerOnly_checks (fun _ _ => rfl) data
  · exact headerOnly_checks (fun _ _ => rfl) data
  · exact headerOnly_checks (fun _ _ => rfl) data
  · exact Checks.ok rfl
  · exact headerOnly_checks (fun _ _ => rfl) data
  · exact checks_header packetInit_notStruct (communities_checks data)
  · exact headerOnly_checks (fun _ _ => rfl) data
  · exact checks_header packetInit_notStruct (clusterList_checks data)
  · exact (checks_header packetInit_notStruct (mpReachNLRI_checks data)).map
      fun _reach => rfl
  · exact (checks_header packetInit_notStruct (mpUnreachNLRI_checks data)).map
      fun _unreach => rfl
  · split <;> first | exact Checks.ok rfl | contradiction

theorem pathAttribute_checks (buf : Bytes) :
    Checks PyError.IsUnpackError Examined.Bad Attribute.size
      (attributeShown buf) (pathAttribute buf) := by
  apply packetInit_checks
  apply takeHeader_checks
  intro _enough
  dsimp only
  have flagsRead : cut (buf.take 2) 0 1 = cut buf 0 1 := cut_take (by omega)
  have typeRead : cut (buf.take 2) 1 2 = cut buf 1 2 := cut_take (by omega)
  rw [flagsRead, typeRead]
  generalize beNat (cut buf 0 1) = flags
  have lengthThere : ((buf.drop 2).take (lengthWidth flags)).length =
      lengthWidth flags ↔ 2 + lengthWidth flags ≤ buf.length := by
    have positive : 0 < lengthWidth flags := by
      unfold lengthWidth
      split <;> decide
    rw [List.length_take, List.length_drop]
    omega
  have lengthRead : (buf.drop 2).take (lengthWidth flags) =
      cut buf 2 (2 + lengthWidth flags) := by
    unfold cut
    rw [Nat.add_sub_cancel_left]
  apply unpackBe_checks lengthThere
  intro _there
  rw [lengthRead]
  generalize beNat (cut buf 2 (2 + lengthWidth flags)) = len
  have value : cut (buf.drop 2) (lengthWidth flags) (lengthWidth flags + len) =
      cut buf (2 + lengthWidth flags) (2 + lengthWidth flags + len) := by
    unfold cut
    rw [List.drop_drop, Nat.add_sub_cancel_left, Nat.add_sub_cancel_left]
  rw [value]
  exact (attributeValue_checks _ _).bind fun _value _read => Checks.ok rfl

theorem announcedRoute_checks (data : Bytes) :
    Checks PyError.IsUnpackError Examined.Bad Route.size
      (announcedShown data) (announcedRoute data) := by
  unfold announcedShown announcedRoute
  exact Checks.branch (fun _nine => extendedRouteIPV4_checks data)
    (fun _plain => routeIPV4_checks data)

/-- A two-octet length field, which `Update` reads without a header. -/
theorem length_checks (data : Bytes) :
    Checks PyError.IsUnpackError Examined.Bad id (lengthShown data)
      (unpackBe 2 (data.take 2)) :=
  unpackBe_wanted Iff.rfl

theorem update_checks (buf : Bytes) :
    Checks PyError.IsUnpackError Examined.Bad (fun _update => ())
      (updateShown buf) (update buf) := by
  apply packetInit_noHeader_checks
  refine (length_checks buf).bind fun wlen _read => ?_
  refine (parseCounted_checks routeIPV4_checks wlen (buf.drop 2)).bind
    fun withdrawn _walked => ?_
  refine (length_checks withdrawn.2).bind fun plen _read => ?_
  refine (parseCounted_checks pathAttribute_checks plen
    (withdrawn.2.drop 2)).bind fun attributes _walked => ?_
  refine (parseAll_checks announcedRoute_checks attributes.2).bind
    fun announced _walked => ?_
  exact Checks.ok rfl

theorem headerClass_raisesOnly {α : Type} {className : String} {hdrLen : Nat}
    {build : Bytes × Bytes → Except PyError α}
    (raises : ∀ parts, RaisesOnly HeaderError (build parts)) (buf : Bytes) :
    RaisesOnly PyError.IsUnpackError
      (packetInit className (some hdrLen)
        (fun buf => takeHeader hdrLen buf >>= build) buf) := by
  apply packetInit_raisesOnly
  apply RaisesOnly.bind
  · exact (takeHeader_raisesOnly hdrLen buf).mono fun _problem => Or.inl
  · intro parts _read
    exact raises parts

theorem headerClass_header {α : Type} {className : String} {hdrLen : Nat}
    {build : Bytes × Bytes → α} (buf : Bytes) :
    RaisesOnly HeaderError
      (packetInit className (some hdrLen)
        (fun buf => takeHeader hdrLen buf >>= fun parts => .ok (build parts))
        buf) :=
  (headerClass_raisesOnly (fun _parts => raisesOnly_ok _) buf).mono
    fun _problem => Or.inr

theorem parameter_raisesOnly (buf : Bytes) :
    RaisesOnly PyError.IsUnpackError (parameter buf) := by
  apply headerClass_raisesOnly
  intro parts
  dsimp only
  split
  · exact (headerClass_header _).bind fun _value _read => raisesOnly_ok _
  · exact (headerClass_header _).bind fun _value _read => raisesOnly_ok _
  · exact raisesOnly_ok _

theorem openMessage_raisesOnly (buf : Bytes) :
    RaisesOnly PyError.IsUnpackError (openMessage buf) := by
  apply headerClass_raisesOnly
  intro parts
  dsimp only
  apply RaisesOnly.bind
  · apply parseCounted_raisesOnly
    intro data
    exact (parameter_raisesOnly data).mono fun _problem => Or.inr
  · intro result _walked
    exact raisesOnly_ok _

/-- No other type of message has a class without a header. -/
theorem body_raisesOnly {type : Nat} (notUpdate : type ≠ 2) (data : Bytes) :
    RaisesOnly PyError.IsUnpackError (body type data) := by
  unfold body
  split
  · exact openMessage_raisesOnly data
  · exact absurd rfl notUpdate
  · exact headerClass_raisesOnly (fun _parts => raisesOnly_ok _) data
  · exact raisesOnly_ok _
  · exact headerClass_raisesOnly (fun _parts => raisesOnly_ok _) data
  · exact raisesOnly_ok _

/-! ### Every message -/

theorem update_escapes_iff (data : Bytes) :
    Escapes HeaderError (body 2 data) ↔
      ∃ place ∈ (updateShown data).texts, place.Bad := by
  have checks := checks_header packetInit_notStruct (update_checks data)
  have wrapped : Checks HeaderError Examined.Bad (fun _body : Body => ())
      (updateShown data) (body 2 data) := checks.map fun _update => rfl
  exact wrapped.escapes_iff

theorem bgp_escapes_iff (buf : Bytes) :
    Escapes PyError.IsUnpackError (bgp buf) ↔
      ∃ place ∈ examined buf, place.Bad := by
  unfold bgp examined
  rw [packetInit_escapes]
  by_cases enough : 19 ≤ buf.length
  · have lenRead : cut (buf.take 19) 16 18 = cut buf 16 18 :=
      cut_take (by omega)
    have typeRead : cut (buf.take 19) 18 19 = cut buf 18 19 :=
      cut_take (by omega)
    have header : takeHeader 19 buf = .ok (buf.take 19, buf.drop 19) :=
      takeHeader_eq_ok.mpr ⟨enough, rfl, rfl⟩
    rw [header, ok_bind]
    dsimp only
    rw [lenRead, typeRead, escapes_map]
    change Escapes HeaderError (body (messageType buf) (messageBody buf)) ↔ _
    by_cases isUpdate : messageType buf = 2
    · rw [if_pos ⟨enough, isUpdate⟩, isUpdate]
      exact update_escapes_iff (messageBody buf)
    · rw [if_neg fun both => isUpdate both.2]
      constructor
      · rintro ⟨problem, raised, refused⟩
        have library := body_raisesOnly isUpdate (messageBody buf) problem raised
        exact absurd (Or.inr library) refused
      · rintro ⟨place, impossible, _bad⟩
        cases impossible
  · have header : takeHeader 19 buf = .error .structError := if_pos (by omega)
    rw [header, if_neg fun both => enough both.1]
    constructor
    · rintro ⟨problem, raised, refused⟩
      cases raised
      exact absurd (Or.inl rfl) refused
    · rintro ⟨place, impossible, _bad⟩
      cases impossible

/-- A constructor answers `struct.error` with an error of the library when its
class has a header, and then only; and `BGP(buf)` raises nothing else exactly
when each place that it examines is good. -/
theorem constructor_contract_iff {α : Type} (className : String)
    (hdrLen : Option Nat) (unpack : Bytes → Except PyError α) (buf : Bytes) :
    (unpack buf = .error .structError →
      ((∃ problem, packetInit className hdrLen unpack buf = .error problem ∧
        problem.IsUnpackError) ↔ hdrLen.isSome)) ∧
      (RaisesOnly PyError.IsUnpackError (bgp buf) ↔
        ∀ place ∈ examined buf, ¬place.Bad) := by
  constructor
  · intro raised
    cases hdrLen with
    | none =>
        rw [packetInit_noHeader raised]
        constructor
        · rintro ⟨problem, same, library⟩
          cases same
          exact absurd library fun impossible => impossible
        · intro impossible
          cases impossible
    | some needed =>
        have library : RaisesOnly PyError.IsUnpackError
            (packetInit className (some needed) unpack buf) := by
          apply packetInit_raisesOnly
          rw [raised]
          exact raisesOnly_error.mpr (Or.inl rfl)
        constructor
        · intro _expected
          rfl
        · intro _hasHeader
          cases result : packetInit className (some needed) unpack buf with
          | error problem => exact ⟨problem, rfl, library problem result⟩
          | ok value =>
              rw [packetInit_eq_ok.mp result] at raised
              cases raised
  · rw [← not_escapes_iff, bgp_escapes_iff]
    push Not
    rfl

def twoBytes (buf : Bytes) : Except PyError Nat := unpackBe 2 (buf.take 2)

/-- The class without a header, and a KEEPALIVE. -/
theorem keepalive_contract :
    ((∃ problem, packetInit "Update" none twoBytes [] = .error problem ∧
        problem.IsUnpackError) ↔ (none : Option Nat).isSome) ∧
      RaisesOnly PyError.IsUnpackError
        (bgp (List.replicate 16 0xff ++ [0, 19, 4])) := by
  constructor
  · exact (constructor_contract_iff "Update" none twoBytes []).1 rfl
  · apply (constructor_contract_iff "Update" none twoBytes
      (List.replicate 16 0xff ++ [0, 19, 4])).2.mpr
    intro place impossible
    cases impossible

def emptyUpdate : Bytes := List.replicate 16 0xff ++ [0, 19, 2]

theorem emptyUpdate_escapes :
    ¬((∀ (α : Type) (className : String) (hdrLen : Option Nat)
      (unpack : Bytes → Except PyError α) (buf : Bytes),
      unpack buf = .error .structError →
        ∃ problem, packetInit className hdrLen unpack buf = .error problem ∧
          problem.IsUnpackError) ∧
      ∀ buf, RaisesOnly PyError.IsUnpackError (bgp buf)) := by
  intro contract
  have raised : bgp emptyUpdate = .error .attributeError := rfl
  exact contract.2 emptyUpdate _ raised

end DpktNg.Bgp
