/-
Messages of the routing information protocol, dpkt/rip.py, and writing a parsed
message again.  The message keeps one authentication entry apart from the routes
and writes it in front of them.
-/

import DpktNg.Python.Loops
import DpktNg.Python.StructFormat
import DpktNg.Python.Records

namespace DpktNg.Rip

open Library

structure RTE where
  family : Nat := 2
  routeTag : Nat := 0
  addr : Nat := 0
  subnet : Nat := 0
  nextHop : Nat := 0
  metric : Nat := 1
deriving DecidableEq, Repr

def RTE.format : StructFormat RTE where
  items := [.int 2, .int 2, .int 4, .int 4, .int 4, .int 4]
  values rte :=
    (rte.family, rte.routeTag, rte.addr, rte.subnet, rte.nextHop, rte.metric,
      ())
  ofValues := fun (family, routeTag, addr, subnet, nextHop, metric, _) =>
    { family, routeTag, addr, subnet, nextHop, metric }
  ofValues_values _ := rfl

structure Auth where
  rsvd : Nat
  type : Nat
  auth : Bytes
deriving DecidableEq, Repr

def Auth.format : StructFormat Auth where
  items := [.int 2, .int 2, .str 16]
  values self := (self.rsvd, self.type, self.auth, ())
  ofValues := fun (rsvd, type, auth, _) => { rsvd, type, auth }
  ofValues_values _ := rfl

structure RIPHeader where
  cmd : Nat
  v : Nat
  rsvd : Nat
deriving DecidableEq, Repr

def RIPHeader.format : StructFormat RIPHeader where
  items := [.int 1, .int 1, .int 2]
  values header := (header.cmd, header.v, header.rsvd, ())
  ofValues := fun (cmd, v, rsvd, _) => { cmd, v, rsvd }
  ofValues_values _ := rfl

structure RIP where
  header : RIPHeader
  auth : Option Auth
  rtes : List RTE
deriving DecidableEq, Repr

/-- `RTE(buf)` on at most twenty bytes, so that nothing is left behind the
header. -/
def RTE.parse (buf : Bytes) : Except PyError RTE := do
  .ok (← RTE.format.parsePacket .big "RTE" buf).1

def Auth.parse (buf : Bytes) : Except PyError Auth := do
  .ok (← Auth.format.parsePacket .big "Auth" buf).1

namespace RIP

/-- What the body of the loop makes of twenty bytes. -/
inductive Entry where
  | auth (auth : Auth)
  | route (rte : RTE)
deriving DecidableEq, Repr

def Entry.parse (buf : Bytes) : Except PyError Entry := do
  let rte ← RTE.parse (buf.take 20)
  if rte.family = 0xffff then do .ok (.auth (← Auth.parse (buf.take 20)))
  else .ok (.route rte)

/-- The loop goes on twenty bytes further whatever the entry was. -/
def Entry.size (_entry : Entry) : Nat := 20

theorem Entry.size_pos (entry : Entry) : 0 < entry.size :=
  Nat.zero_lt_succ 19

def lastAuth (entries : List Entry) : Option Auth :=
  entries.foldl (fun auth entry =>
    match entry with
    | .auth other => some other
    | .route _ => auth) none

def routes (entries : List Entry) : List RTE :=
  entries.filterMap fun entry =>
    match entry with
    | .auth _ => none
    | .route rte => some rte

def unpack (buf : Bytes) : Except PyError RIP := do
  let (header, data) ← RIPHeader.format.unpackHdr .big buf
  let entries ← parseAll Entry.parse Entry.size Entry.size_pos data
  .ok { header, auth := lastAuth entries, rtes := routes entries }

def parse (buf : Bytes) : Except PyError RIP :=
  packetInit "RIP" (some RIPHeader.format.size) unpack buf

/-- Only authentications have the family of authentications. -/
def Entry.Fits : Entry → Prop
  | .auth self => Auth.format.Fits self ∧ self.rsvd = 0xffff
  | .route rte => RTE.format.Fits rte ∧ rte.family ≠ 0xffff

instance : (entry : Entry) → Decidable entry.Fits
  | .auth self =>
      inferInstanceAs
        (Decidable (Auth.format.Fits self ∧ self.rsvd = 0xffff))
  | .route rte =>
      inferInstanceAs (Decidable (RTE.format.Fits rte ∧ rte.family ≠ 0xffff))

def Entry.bytes : Entry → Bytes
  | .auth self => Auth.format.bytes .big self
  | .route rte => RTE.format.bytes .big rte

theorem Entry.bytes_length {entry : Entry} (fits : entry.Fits) :
    entry.bytes.length = 20 := by
  cases entry with
  | auth auth => exact StructFormat.bytes_length fits.1
  | route rte => exact StructFormat.bytes_length fits.1

end RIP

theorem RTE.exact : RTE.format.Exact := fun _values => rfl

theorem Auth.exact : Auth.format.Exact := fun _values => rfl

theorem RIPHeader.exact : RIPHeader.format.Exact := fun _values => rfl

namespace RIP

/-- `if self.auth: auth = bytes(self.auth)` -/
def packAuth : Option Auth → Except PyError Bytes
  | none => .ok []
  | some auth => Auth.format.packHdr .big auth

def size (self : RIP) : Nat :=
  RIPHeader.format.size + (self.auth.elim 0 fun _auth => Auth.format.size) +
    (self.rtes.map fun _rte => RTE.format.size).sum

def bytes (self : RIP) : Except PyError Bytes := do
  let auth ← packAuth self.auth
  let hdr ← RIPHeader.format.packHdr .big self.header
  let rtes ← joinBytes (RTE.format.packHdr .big) self.rtes
  .ok (hdr ++ auth ++ rtes)

/-! ### Entries -/

theorem Entry.of_parse {data : Bytes} {entry : Entry}
    (parsed : Entry.parse data = .ok entry) :
    entry.Fits ∧ entry.size ≤ data.length ∧
      entry.bytes = data.take entry.size := by
  obtain ⟨rte, parsedRte, behind⟩ := bind_eq_ok.mp parsed
  obtain ⟨⟨_rte, _rest⟩, header, same⟩ := bind_eq_ok.mp parsedRte
  cases same
  obtain ⟨fits, enough, _rest⟩ :=
    StructFormat.unpackHdr_fits RTE.exact (packetInit_eq_ok.mp header)
  obtain ⟨packed, _enough, _rest⟩ :=
    StructFormat.parsePacket_repacked RTE.exact header
  have size : RTE.format.size = 20 := rfl
  rw [size, List.length_take] at enough
  rw [StructFormat.packHdr_ok fits, Except.ok.injEq, size, List.take_take]
    at packed
  dsimp only at behind
  split at behind
  · rename_i family
    obtain ⟨auth, parsedAuth, same⟩ := bind_eq_ok.mp behind
    cases same
    obtain ⟨⟨_auth, _rest⟩, header, same⟩ := bind_eq_ok.mp parsedAuth
    cases same
    obtain ⟨authFits, _enough, _rest⟩ :=
      StructFormat.unpackHdr_fits Auth.exact (packetInit_eq_ok.mp header)
    obtain ⟨authPacked, _enough, _rest⟩ :=
      StructFormat.parsePacket_repacked Auth.exact header
    have authSize : Auth.format.size = 20 := rfl
    rw [StructFormat.packHdr_ok authFits, Except.ok.injEq, authSize,
      List.take_take] at authPacked
    refine ⟨⟨authFits, ?_⟩, ?_, authPacked⟩
    · -- both classes read the same two bytes first
      have same := congrArg (fun bytes => beNat (bytes.take 2))
        (packed.trans authPacked.symm)
      change beNat (beBytes 2 _) = beNat (beBytes 2 _) at same
      rw [beNat_beBytes fits.1, beNat_beBytes authFits.1] at same
      exact same.symm.trans family
    · change 20 ≤ data.length
      omega
  · rename_i family
    cases behind
    refine ⟨⟨fits, family⟩, ?_, packed⟩
    change 20 ≤ data.length
    omega

theorem Entry.isAuth_iff {entry : Entry} (fits : entry.Fits) :
    entry.bytes.take 2 = [0xff, 0xff] ↔ ∃ auth, entry = .auth auth := by
  have marker : [0xff, 0xff] = beBytes 2 0xffff := by decide
  cases entry with
  | auth auth =>
      refine iff_of_true ?_ ⟨auth, rfl⟩
      change beBytes 2 auth.rsvd = _
      rw [fits.2, marker]
  | route rte =>
      refine iff_of_false ?_ fun ⟨_auth, impossible⟩ => by cases impossible
      intro same
      change beBytes 2 rte.family = _ at same
      have small : rte.family < 256 ^ 2 := fits.1.1
      have family := congrArg beNat same
      rw [marker, beNat_beBytes small, beNat_beBytes (by decide)] at family
      exact fits.2 family

theorem entries_of_parse {data : Bytes} {entries : List Entry}
    (parsed : parseAll Entry.parse Entry.size Entry.size_pos data =
      .ok entries) :
    (∀ entry ∈ entries, entry.Fits) ∧ data = entries.flatMap Entry.bytes := by
  have rewritten {data : Bytes} {entry : Entry}
      (first : Entry.parse data = .ok entry) :
      (.ok entry.bytes : Except PyError Bytes) =
        .ok (data.take entry.size) :=
    congrArg Except.ok (Entry.of_parse first).2.2
  have whole : joinBytes (fun entry => .ok (Entry.bytes entry)) entries =
      .ok data := joinBytes_parseAll rewritten parsed
  have chunks : joinBytes (fun entry => .ok (Entry.bytes entry)) entries =
      .ok (entries.map Entry.bytes).flatten := by
    refine joinBytes_chunks (List.forall₂_map_left_iff.mpr ?_)
    exact List.forall₂_same.mpr fun _entry _member => rfl
  rw [whole, Except.ok.injEq] at chunks
  refine ⟨?_, chunks.trans List.flatMap_def.symm⟩
  exact parseAll_forall
    (fun _data _entry first => (Entry.of_parse first).1) parsed

def keptBytes (entries : List Entry) : Bytes :=
  (lastAuth entries).elim [] (Auth.format.bytes .big) ++
    (routes entries).flatMap (RTE.format.bytes .big)

theorem routes_fit {entries : List Entry}
    (fits : ∀ entry ∈ entries, entry.Fits) :
    ∀ rte ∈ routes entries, RTE.format.Fits rte := by
  intro rte member
  obtain ⟨entry, present, same⟩ := List.mem_filterMap.mp member
  cases entry with
  | auth auth => cases same
  | route other =>
      cases same
      exact (fits _ present).1

theorem mem_of_lastAuth {entries : List Entry} {auth : Auth}
    (last : lastAuth entries = some auth) : .auth auth ∈ entries := by
  unfold lastAuth at last
  induction entries using List.reverseRecOn with
  | nil => cases last
  | append_singleton before entry ih =>
      rw [List.foldl_append, List.foldl_cons, List.foldl_nil] at last
      cases entry with
      | auth other =>
          cases last
          exact List.mem_append_right _ (List.mem_singleton_self _)
      | route rte => exact List.mem_append_left _ (ih last)

theorem bytes_kept {header : RIPHeader}
    (headerFits : RIPHeader.format.Fits header) {entries : List Entry}
    (fits : ∀ entry ∈ entries, entry.Fits) :
    bytes { header, auth := lastAuth entries, rtes := routes entries } =
      .ok (RIPHeader.format.bytes .big header ++ keptBytes entries) := by
  have auth : packAuth (lastAuth entries) =
      .ok ((lastAuth entries).elim [] (Auth.format.bytes .big)) := by
    cases last : lastAuth entries with
    | none => rfl
    | some auth =>
        have authFits := fits _ (mem_of_lastAuth last)
        exact StructFormat.packHdr_ok authFits.1
  have rtes : joinBytes (RTE.format.packHdr .big) (routes entries) =
      .ok ((routes entries).map (RTE.format.bytes .big)).flatten := by
    refine joinBytes_chunks (List.forall₂_map_left_iff.mpr ?_)
    exact List.forall₂_same.mpr fun rte member =>
      StructFormat.packHdr_ok (routes_fit fits rte member)
  unfold bytes keptBytes
  dsimp only
  rw [auth, ok_bind, StructFormat.packHdr_ok headerFits, ok_bind, rtes,
    ok_bind, List.append_assoc, List.flatMap_def]

/-! ### Entries that are kept as they were -/

theorem entries_length {entries : List Entry}
    (fits : ∀ entry ∈ entries, entry.Fits) :
    (entries.flatMap Entry.bytes).length = 20 * entries.length := by
  induction entries with
  | nil => rfl
  | cons entry rest ih =>
      rw [List.forall_mem_cons] at fits
      rw [List.flatMap_cons, List.length_append, Entry.bytes_length fits.1,
        ih fits.2, List.length_cons]
      omega

theorem lastAuth_append_routes (front : List Entry) {entries : List Entry}
    (none : ∀ auth, .auth auth ∉ entries) :
    lastAuth (front ++ entries) = lastAuth front := by
  induction entries using List.reverseRecOn with
  | nil => rw [List.append_nil]
  | append_singleton before entry ih =>
      have others : ∀ auth, .auth auth ∉ before :=
        fun auth member => none auth (List.mem_append_left _ member)
      cases entry with
      | auth auth =>
          have last := List.mem_append_right before
            (List.mem_singleton_self (Entry.auth auth))
          exact absurd last (none auth)
      | route rte =>
          rw [← ih others, ← List.append_assoc]
          unfold lastAuth
          rw [List.foldl_append]
          rfl

theorem lastAuth_of_mem {entries : List Entry} {auth : Auth}
    (member : .auth auth ∈ entries) : ∃ last, lastAuth entries = some last := by
  induction entries using List.reverseRecOn with
  | nil => cases member
  | append_singleton before entry ih =>
      unfold lastAuth
      rw [List.foldl_append]
      cases entry with
      | auth other => exact ⟨other, rfl⟩
      | route rte =>
          rcases List.mem_append.mp member with earlier | here
          · exact ih earlier
          · cases List.mem_singleton.mp here

theorem routes_all {entries : List Entry}
    (none : ∀ auth, .auth auth ∉ entries) :
    (routes entries).length = entries.length ∧
      (routes entries).flatMap (RTE.format.bytes .big) =
        entries.flatMap Entry.bytes := by
  induction entries with
  | nil => exact ⟨rfl, rfl⟩
  | cons entry rest ih =>
      have others : ∀ auth, .auth auth ∉ rest :=
        fun auth member => none auth (List.mem_cons_of_mem _ member)
      obtain ⟨length, same⟩ := ih others
      cases entry with
      | auth auth => exact absurd List.mem_cons_self (none auth)
      | route rte =>
          refine ⟨congrArg (· + 1) length, ?_⟩
          exact congrArg (RTE.format.bytes .big rte ++ ·) same

/-- An authentication is no route. -/
theorem routes_length_lt {entries : List Entry} {auth : Auth}
    (member : .auth auth ∈ entries) :
    (routes entries).length < entries.length :=
  List.length_filterMap_lt_length_iff_exists.mpr ⟨_, member, rfl⟩

def keptCount (entries : List Entry) : Nat :=
  ((lastAuth entries).elim 0 fun _auth => 1) + (routes entries).length

theorem size_kept (header : RIPHeader) (entries : List Entry) :
    size { header, auth := lastAuth entries, rtes := routes entries } =
      4 + 20 * keptCount entries := by
  have sizes : ((routes entries).map fun _rte => RTE.format.size).sum =
      20 * (routes entries).length := by
    rw [List.map_const', List.sum_replicate, smul_eq_mul, Nat.mul_comm]
    rfl
  unfold size keptCount
  dsimp only
  rw [sizes]
  cases lastAuth entries with
  | none =>
      change 4 + 0 + _ = 4 + 20 * (0 + _)
      omega
  | some auth =>
      change 4 + 20 + _ = 4 + 20 * (1 + _)
      omega

/-- Where an authentication stands behind the first entry, a route is missing or
another entry is in front. -/
theorem not_kept {entry : Entry} {rest : List Entry} (first : entry.Fits)
    (others : ∀ entry ∈ rest, entry.Fits) {auth : Auth}
    (member : .auth auth ∈ rest)
    (same : keptBytes (entry :: rest) = (entry :: rest).flatMap Entry.bytes) :
    keptCount (entry :: rest) ≠ (entry :: rest).length := by
  intro count
  obtain ⟨last, found⟩ := lastAuth_of_mem (List.mem_cons_of_mem entry member)
  have fewer := routes_length_lt member
  unfold keptBytes at same
  unfold keptCount at count
  rw [found] at same count
  cases entry with
  | auth first =>
      change 1 + (routes rest).length = rest.length + 1 at count
      omega
  | route rte =>
      -- the bytes begin with an authentication now
      have lastFits : (Entry.auth last).Fits := by
        rcases List.mem_cons.mp (mem_of_lastAuth found) with here | later
        · cases here
        · exact others _ later
      have authBytes := Entry.bytes_length lastFits
      have rteBytes := Entry.bytes_length first
      have start := congrArg (List.take 2) same
      change ((Entry.auth last).bytes ++ _).take 2 =
        ((Entry.route rte).bytes ++ _).take 2 at start
      rw [List.take_append_of_le_length (by omega),
        List.take_append_of_le_length (by omega),
        (Entry.isAuth_iff lastFits).mpr ⟨last, rfl⟩] at start
      obtain ⟨_auth, impossible⟩ := (Entry.isAuth_iff first).mp start.symm
      cases impossible

theorem kept {entry : Entry} {rest : List Entry}
    (none : ∀ auth, .auth auth ∉ rest) :
    keptBytes (entry :: rest) = (entry :: rest).flatMap Entry.bytes ∧
      keptCount (entry :: rest) = (entry :: rest).length := by
  obtain ⟨length, same⟩ := routes_all none
  have last := lastAuth_append_routes [entry] none
  rw [List.singleton_append] at last
  unfold keptBytes keptCount
  rw [last]
  cases entry with
  | auth first =>
      refine ⟨?_, ?_⟩
      · exact congrArg (Auth.format.bytes .big first ++ ·) same
      · change 1 + (routes rest).length = rest.length + 1
        omega
  | route rte =>
      refine ⟨?_, ?_⟩
      · exact congrArg (RTE.format.bytes .big rte ++ ·) same
      · change 0 + ((routes rest).length + 1) = rest.length + 1
        omega

/-- All entries are kept as they were when none but the first one is an
authentication. -/
theorem kept_iff {entries : List Entry}
    (fits : ∀ entry ∈ entries, entry.Fits) :
    (keptBytes entries = entries.flatMap Entry.bytes ∧
        keptCount entries = entries.length) ↔
      ∀ auth, .auth auth ∉ entries.tail := by
  cases entries with
  | nil => exact iff_of_true ⟨rfl, rfl⟩ fun _auth => List.not_mem_nil
  | cons entry rest =>
      rw [List.forall_mem_cons] at fits
      rw [List.tail_cons]
      constructor
      · rintro ⟨same, count⟩ auth member
        exact not_kept fits.1 fits.2 member same count
      · exact kept

/-! ### Messages -/

/-- No block of twenty bytes behind the header, but for the first one, begins
like an authentication. -/
def AuthFirst (buf : Bytes) : Prop :=
  ∀ block ∈ recordsOf (Nat.zero_lt_succ 19) (buf.drop 24),
    block.take 2 ≠ [0xff, 0xff]

instance : DecidablePred AuthFirst := fun buf =>
  inferInstanceAs (Decidable
    (∀ block ∈ recordsOf (Nat.zero_lt_succ 19) (buf.drop 24),
      block.take 2 ≠ [0xff, 0xff]))

theorem authFirst_iff {buf : Bytes} {entries : List Entry}
    (fits : ∀ entry ∈ entries, entry.Fits)
    (data : buf.drop 4 = entries.flatMap Entry.bytes) :
    AuthFirst buf ↔ ∀ auth, .auth auth ∉ entries.tail := by
  have behind : buf.drop 24 = (entries.tail.map Entry.bytes).flatten ++ [] := by
    rw [show 24 = 4 + 20 from rfl, ← List.drop_drop, data, List.append_nil]
    cases entries with
    | nil => rfl
    | cons entry rest =>
        rw [List.forall_mem_cons] at fits
        rw [List.flatMap_cons, List.drop_left' (Entry.bytes_length fits.1),
          List.flatMap_def]
        rfl
  have tailFits : ∀ entry ∈ entries.tail, entry.Fits :=
    fun entry member => fits entry (List.mem_of_mem_tail member)
  have sized : ∀ block ∈ entries.tail.map Entry.bytes, block.length = 20 := by
    rw [List.forall_mem_map]
    exact fun entry member => Entry.bytes_length (tailFits entry member)
  unfold AuthFirst
  rw [behind, recordsOf_flatten _ sized (by decide), List.forall_mem_map]
  constructor
  · intro routes auth member
    have isAuth := Entry.isAuth_iff (tailFits _ member)
    exact routes _ member (isAuth.mpr ⟨auth, rfl⟩)
  · intro none entry member isAuth
    obtain ⟨auth, same⟩ := (Entry.isAuth_iff (tailFits _ member)).mp isAuth
    rw [same] at member
    exact none auth member

/-- A message is written again as it was, and has its length, exactly when no
entry but the first one is an authentication. -/
theorem rip_rewritten_iff {buf : Bytes} {rip : RIP}
    (parsed : parse buf = .ok rip) :
    (rip.bytes = .ok buf ∧ rip.size = buf.length) ↔ AuthFirst buf := by
  obtain ⟨⟨header, data⟩, hdr, unpacked⟩ :=
    bind_eq_ok.mp (packetInit_eq_ok.mp parsed)
  obtain ⟨entries, found, same⟩ := bind_eq_ok.mp unpacked
  cases same
  obtain ⟨headerFits, enough, rest⟩ :=
    StructFormat.unpackHdr_fits RIPHeader.exact hdr
  obtain ⟨packed, _enough, _rest⟩ := StructFormat.repacked RIPHeader.exact hdr
  have hdrSize : RIPHeader.format.size = 4 := rfl
  rw [hdrSize] at enough rest packed
  rw [StructFormat.packHdr_ok headerFits, Except.ok.injEq] at packed
  obtain ⟨fits, joined⟩ := entries_of_parse found
  have length : buf.length = 4 + 20 * entries.length := by
    have sizes := entries_length fits
    rw [← joined, rest, List.length_drop] at sizes
    omega
  rw [authFirst_iff fits (rest.symm.trans joined), ← kept_iff fits,
    bytes_kept headerFits fits, size_kept, Except.ok.injEq, length, packed]
  refine and_congr ?_ (by omega)
  rw [← joined, rest]
  constructor
  · intro whole
    exact List.append_cancel_left
      (whole.trans (List.take_append_drop 4 buf).symm)
  · intro kept
    rw [kept, List.take_append_drop]

def passwordFirst : Bytes :=
  [2, 2, 0, 0] ++ ([0xff, 0xff, 0, 2] ++ zeros 16) ++
    ([0, 2, 0, 0, 1, 2, 3, 0, 255, 255, 255, 0] ++ zeros 7 ++ [1])

theorem rip_rewritten_password : ∃ rip, parse passwordFirst = .ok rip ∧
    ((rip.bytes = .ok passwordFirst ∧ rip.size = 44) ↔
      AuthFirst passwordFirst) := by
  have parsed : parse passwordFirst = .ok
      { header := { cmd := 2, v := 2, rsvd := 0 }
        auth := some { rsvd := 0xffff, type := 2, auth := zeros 16 }
        rtes := [{ addr := 0x01020300, subnet := 0xffffff00 }] } := by
    decide +kernel
  exact ⟨_, parsed, rip_rewritten_iff parsed⟩

/-- A response with a password, a route and a digest behind it, as a keyed
message has it. -/
def digestBehind : Bytes :=
  passwordFirst ++ ([0xff, 0xff, 0, 1] ++ zeros 16)

/-- Only the last authentication is written. -/
theorem digestBehind_not_rewritten :
    ¬∀ (buf : Bytes) (rip : RIP), parse buf = .ok rip →
      rip.bytes = .ok buf ∧ rip.size = buf.length := by
  intro claimed
  have parsed : parse digestBehind = .ok
      { header := { cmd := 2, v := 2, rsvd := 0 }
        auth := some { rsvd := 0xffff, type := 1, auth := zeros 16 }
        rtes := [{ addr := 0x01020300, subnet := 0xffffff00 }] } := by
    decide +kernel
  have shorter := (claimed digestBehind _ parsed).2
  revert shorter
  decide +kernel

end RIP

end DpktNg.Rip
