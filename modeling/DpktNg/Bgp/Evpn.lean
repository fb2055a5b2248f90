/-
EVPN routes, dpkt/bgp.py: when `RouteEVPN` finds the length octets it looks
for.  It reads them as single bytes of the route data, so data that ends
before them raises `IndexError`.
-/

import DpktNg.Bgp.Message

namespace DpktNg.Bgp

open Library

/-- Where the first length octet stands: behind the route distinguisher, the
segment identifier and the tag. -/
def evpnOffset (type : Nat) : Nat :=
  8 + (if type ≠ 3 then 10 else 0) + if type ≠ 4 then 4 else 0

def macFieldLength (bits : UInt8) : Nat := if bits = 48 then 7 else 1

/-- Whether the route data reaches every length octet of its type. -/
def EvpnComplete (type : Nat) (routeData : Bytes) : Prop :=
  if type = 1 then True
  else if type = 2 then
    ∃ bits ∈ routeData[evpnOffset 2]?,
      evpnOffset 2 + macFieldLength bits < routeData.length
  else evpnOffset type < routeData.length

instance (type : Nat) (routeData : Bytes) :
    Decidable (EvpnComplete type routeData) := by
  unfold EvpnComplete
  infer_instance

theorem lengthAndField_short {widths : List (Nat × Nat)} {routeData : Bytes}
    {offset : Nat} (short : routeData.length ≤ offset) :
    lengthAndField widths (routeData.drop offset) = .error .indexError := by
  rw [List.drop_eq_nil_of_le short]
  rfl

theorem lengthAndField_reads (widths : List (Nat × Nat)) {routeData : Bytes}
    {offset : Nat} {bits : UInt8} (here : routeData[offset]? = some bits) :
    ∃ field, lengthAndField widths (routeData.drop offset) =
      .ok (bits.toNat, field,
        routeData.drop
          (offset + (1 + (widths.lookup bits.toNat).getD 0))) := by
  obtain ⟨inside, value⟩ := List.getElem?_eq_some_iff.mp here
  have first : firstByte (routeData.drop offset) = .ok bits.toNat := by
    rw [List.drop_eq_getElem_cons inside, value]
    rfl
  unfold lengthAndField
  rw [first, ok_bind]
  cases widths.lookup bits.toNat with
  | none =>
      refine ⟨none, ?_⟩
      dsimp only
      rw [List.drop_drop]
      rfl
  | some width =>
      refine ⟨some (cut (routeData.drop offset) 1 (1 + width)), ?_⟩
      dsimp only
      rw [List.drop_drop]
      rfl

theorem lengthAndField_route {widths : List (Nat × Nat)} (routeData : Bytes)
    (offset : Nat) (route : Nat × Option Bytes × Bytes → EvpnRoute) :
    (offset < routeData.length → ∃ parts,
      (do
        let parts ← lengthAndField widths (routeData.drop offset)
        .ok (.evpn (route parts)) : Except PyError Route) =
          .ok (.evpn (route parts))) ∧
      (routeData.length ≤ offset →
        (do
          let parts ← lengthAndField widths (routeData.drop offset)
          .ok (.evpn (route parts)) : Except PyError Route) =
            .error .indexError) := by
  constructor
  · intro inside
    obtain ⟨field, read⟩ := lengthAndField_reads widths
      (List.getElem?_eq_getElem inside)
    rw [read, ok_bind]
    exact ⟨_, rfl⟩
  · intro short
    rw [lengthAndField_short short]
    rfl

/-- What is known of a parsed route. -/
structure EvpnParsed (type len : Nat) (routeData : Bytes)
    (result : Except PyError Route) : Prop where
  complete : EvpnComplete type routeData → ∃ route, result = .ok (.evpn route) ∧
    route.type = type ∧ route.len = len ∧ route.routeData = routeData
  incomplete : ¬EvpnComplete type routeData → result = .error .indexError

theorem EvpnParsed.of_parts {type len : Nat} {routeData : Bytes}
    {widths : List (Nat × Nat)} (offset : Nat)
    {route : Nat × Option Bytes × Bytes → EvpnRoute}
    (complete : EvpnComplete type routeData ↔ offset < routeData.length)
    (same : ∀ parts, (route parts).type = type ∧ (route parts).len = len ∧
      (route parts).routeData = routeData) :
    EvpnParsed type len routeData (do
      let parts ← lengthAndField widths (routeData.drop offset)
      .ok (.evpn (route parts))) where
  complete := by
    intro reaches
    obtain ⟨parts, read⟩ :=
      (lengthAndField_route routeData offset route).1 (complete.mp reaches)
    exact ⟨route parts, read, same parts⟩
  incomplete := by
    intro short
    rw [complete] at short
    exact (lengthAndField_route routeData offset route).2 (by omega)

theorem macField (bits : UInt8) :
    1 + ([(48, 6)].lookup bits.toNat).getD 0 = macFieldLength bits := by
  unfold macFieldLength
  by_cases mac : bits = 48
  · rw [mac]
    rfl
  · have other : (bits.toNat == 48) = false := by
      rw [beq_eq_false_iff_ne]
      intro same
      exact mac (UInt8.toNat_inj.mp same)
    rw [if_neg mac, List.lookup_cons, other]
    rfl

/-- A route with two length octets, of which the first gives the place of the
second. -/
theorem EvpnParsed.of_two_parts {len : Nat} {routeData : Bytes}
    {widths : List (Nat × Nat)}
    {route : Nat × Option Bytes × Bytes → Nat × Option Bytes × Bytes →
      EvpnRoute}
    (same : ∀ mac parts, (route mac parts).type = 2 ∧
      (route mac parts).len = len ∧ (route mac parts).routeData = routeData) :
    EvpnParsed 2 len routeData (do
      let mac ← lengthAndField [(48, 6)] (routeData.drop 22)
      let parts ← lengthAndField widths mac.2.2
      .ok (.evpn (route mac parts))) := by
  cases here : routeData[22]? with
  | none =>
      have short := List.getElem?_eq_none_iff.mp here
      rw [lengthAndField_short short]
      refine ⟨?_, fun _incomplete => rfl⟩
      rintro ⟨bits, found, _second⟩
      change routeData[22]? = some bits at found
      rw [here] at found
      cases found
  | some bits =>
      have complete : EvpnComplete 2 routeData ↔
          22 + macFieldLength bits < routeData.length := by
        constructor
        · rintro ⟨other, found, second⟩
          change routeData[22]? = some other at found
          rw [here, Option.some.injEq] at found
          rw [found]
          exact second
        · intro second
          exact ⟨bits, here, second⟩
      obtain ⟨field, read⟩ := lengthAndField_reads [(48, 6)] here
      rw [macField] at read
      rw [read, ok_bind]
      exact EvpnParsed.of_parts (22 + macFieldLength bits) complete
        (same (bits.toNat, field, _))

theorem EvpnParsed.init {type len : Nat} {routeData buf : Bytes}
    {unpack : Bytes → Except PyError Route}
    (parsed : EvpnParsed type len routeData (unpack buf)) :
    EvpnParsed type len routeData
      (packetInit "RouteEVPN" (some 2) unpack buf) where
  complete := by
    intro reaches
    obtain ⟨route, read, same⟩ := parsed.complete reaches
    exact ⟨route, packetInit_eq_ok.mpr read, same⟩
  incomplete := by
    intro short
    apply packetInit_passes (parsed.incomplete short)
    intro impossible
    cases impossible

theorem routeEVPN_parsed (type len : UInt8) (data : Bytes) :
    EvpnParsed type.toNat len.toNat (data.take len.toNat)
      (routeEVPN (type :: len :: data)) := by
  have split : takeHeader 2 (type :: len :: data) = .ok ([type, len], data) := by
    rw [takeHeader_eq_ok]
    exact ⟨Nat.le_add_left 2 _, rfl, rfl⟩
  have typeRead : beNat (cut [type, len] 0 1) = type.toNat := by
    change 0 * 256 + type.toNat = _
    omega
  have lenRead : beNat (cut [type, len] 1 2) = len.toNat := by
    change 0 * 256 + len.toNat = _
    omega
  apply EvpnParsed.init
  rw [split, ok_bind]
  dsimp only
  rw [typeRead, lenRead]
  generalize data.take len.toNat = routeData
  generalize type.toNat = type
  generalize len.toNat = len
  by_cases one : type = 1
  · rw [one]
    refine ⟨?_, ?_⟩
    · intro _reaches
      exact ⟨_, rfl, rfl, rfl, rfl⟩
    · intro impossible
      exact absurd trivial impossible
  by_cases two : type = 2
  · simp only [two, ne_eq, not_false_eq_true, reduceIte, Nat.reduceEqDiff,
      OfNat.ofNat_ne_one, pure_bind, List.drop_drop, Nat.reduceAdd]
    exact EvpnParsed.of_two_parts fun _mac _parts => ⟨rfl, rfl, rfl⟩
  have single (type : Nat) (one : type ≠ 1) (two : type ≠ 2) :
      EvpnComplete type routeData ↔ evpnOffset type < routeData.length := by
    unfold EvpnComplete
    rw [if_neg one, if_neg two]
  by_cases three : type = 3
  · rw [three]
    simp only [ne_eq, not_true_eq_false, not_false_eq_true, reduceIte,
      Nat.reduceEqDiff, OfNat.ofNat_ne_one, pure_bind, List.drop_drop,
      Nat.reduceAdd]
    exact EvpnParsed.of_parts 12 (single 3 (by decide) (by decide))
      (fun _parts => ⟨rfl, rfl, rfl⟩)
  by_cases four : type = 4
  · rw [four]
    simp only [ne_eq, not_true_eq_false, not_false_eq_true, reduceIte,
      Nat.reduceEqDiff, OfNat.ofNat_ne_one, pure_bind, List.drop_drop,
      Nat.reduceAdd]
    exact EvpnParsed.of_parts 18 (single 4 (by decide) (by decide))
      (fun _parts => ⟨rfl, rfl, rfl⟩)
  have offset : evpnOffset type = 22 := by
    unfold evpnOffset
    rw [if_pos three, if_pos four]
  have complete := single type one two
  rw [offset] at complete
  simp only [one, two, three, four, ne_eq, not_false_eq_true, reduceIte,
    pure_bind, List.drop_drop, Nat.reduceAdd]
  exact EvpnParsed.of_parts 22 complete (fun _parts => ⟨rfl, rfl, rfl⟩)

end DpktNg.Bgp
