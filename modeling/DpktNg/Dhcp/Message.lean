/-
Messages of dpkt/dhcp.py: the header, the options up to the end option, and
the data behind it.  Writing leaves the pad bytes out, and the end option as
well where there are no options.
-/

import DpktNg.Python.StructFormat

namespace DpktNg.Dhcp

open Library

def dhcpMagic : Nat := 0x63825363

structure DHCPHdr where
  op : Nat := 1
  hrd : Nat := 1
  hln : Nat := 6
  hops : Nat := 0
  xid : Nat := 0xdeadbeef
  secs : Nat := 0
  flags : Nat := 0
  ciaddr : Nat := 0
  yiaddr : Nat := 0
  siaddr : Nat := 0
  giaddr : Nat := 0
  chaddr : Bytes := zeros 16
  sname : Bytes := zeros 64
  file : Bytes := zeros 128
  magic : Nat := dhcpMagic
deriving DecidableEq, Repr

def DHCPHdr.format : StructFormat DHCPHdr where
  items :=
    [.int 1, .int 1, .int 1, .int 1, .int 4, .int 2, .int 2, .int 4, .int 4,
      .int 4, .int 4, .str 16, .str 64, .str 128, .int 4]
  values hdr :=
    (hdr.op, hdr.hrd, hdr.hln, hdr.hops, hdr.xid, hdr.secs, hdr.flags,
      hdr.ciaddr, hdr.yiaddr, hdr.siaddr, hdr.giaddr, hdr.chaddr, hdr.sname,
      hdr.file, hdr.magic, ())
  ofValues :=
    fun (op, hrd, hln, hops, xid, secs, flags, ciaddr, yiaddr, siaddr, giaddr,
        chaddr, sname, file, magic, _) =>
      { op, hrd, hln, hops, xid, secs, flags, ciaddr, yiaddr, siaddr, giaddr,
        chaddr, sname, file, magic }
  ofValues_values _ := rfl

/-- An option is its type and its data. -/
structure DHCP extends DHCPHdr where
  opts : List (Nat × Bytes)
  data : Bytes := []
deriving DecidableEq, Repr

/-- The loop of `unpack`: the options, and what stands behind the end
option. -/
def readOpts : Bytes → Except PyError (List (Nat × Bytes) × Bytes)
  | [] => .ok ([], [])
  | t :: buf =>
      if t = 0xff then .ok ([], buf)
      else if t = 0 then readOpts buf
      else
        match buf with
        | [] => .error .indexError
        | n :: value => do
            let (opts, data) ← readOpts (value.drop n.toNat)
            .ok ((t.toNat, value.take n.toNat) :: opts, data)
termination_by buf => buf.length
decreasing_by
  · exact Nat.lt_succ_self _
  · simp only [List.length_drop, List.length_cons]
    omega

def packOpt (opt : Nat × Bytes) : Except PyError Bytes := do
  let t ← packBe 1 opt.1
  let n ← packBe 1 opt.2.length
  .ok (t ++ n ++ opt.2)

def joinOpts : List (Nat × Bytes) → Except PyError Bytes
  | [] => .ok []
  | opt :: rest => do
      let first ← packOpt opt
      let others ← joinOpts rest
      .ok (first ++ others)

namespace DHCP

def unpack (buf : Bytes) : Except PyError DHCP := do
  let (hdr, buf) ← DHCPHdr.format.unpackHdr .big buf
  let (opts, data) ← readOpts buf
  .ok { hdr with chaddr := hdr.chaddr.take hdr.hln, opts, data }

/-- `DHCP(buf)` -/
def parse (buf : Bytes) : Except PyError DHCP :=
  packetInit "DHCP" (some DHCPHdr.format.size) unpack buf

def packOpts (self : DHCP) : Except PyError Bytes :=
  if self.opts = [] then .ok []
  else do
    let joined ← joinOpts self.opts
    .ok (joined ++ [0xff])

def bytes (self : DHCP) : Except PyError Bytes := do
  let hdr ← DHCPHdr.format.packHdr .big self.toDHCPHdr
  let opts ← self.packOpts
  .ok (hdr ++ opts ++ self.data)

end DHCP

/-- An option that stays one when it is written. -/
def Writable (opt : Nat × Bytes) : Prop :=
  0 < opt.1 ∧ opt.1 < 0xff ∧ opt.2.length < 0x100

def optBytes (opt : Nat × Bytes) : Bytes :=
  UInt8.ofNat opt.1 :: UInt8.ofNat opt.2.length :: opt.2

theorem readOpts_writable {buf data : Bytes} {opts : List (Nat × Bytes)}
    (read : readOpts buf = .ok (opts, data)) : ∀ opt ∈ opts, Writable opt := by
  fun_induction readOpts buf generalizing opts data with
  | case1 =>
      cases read
      exact fun _ => List.not_mem_nil.elim
  | case2 buf =>
      cases read
      exact fun _ => List.not_mem_nil.elim
  | case3 buf _notEnd ih => exact ih read
  | case4 t => cases read
  | case5 t notEnd notPad n value ih =>
      obtain ⟨⟨others, left⟩, readRest, same⟩ := bind_eq_ok.mp read
      cases same
      rw [List.forall_mem_cons]
      refine ⟨⟨?_, ?_, ?_⟩, ih readRest⟩
      · exact Nat.pos_of_ne_zero fun zero =>
          notPad (UInt8.toNat_inj.mp zero)
      · have bound := t.toNat_lt
        have notLast : t.toNat ≠ 0xff := fun same =>
          notEnd (UInt8.toNat_inj.mp same)
        change t.toNat < 0xff
        omega
      · have bound := n.toNat_lt
        change (value.take n.toNat).length < 0x100
        rw [List.length_take]
        omega

theorem readOpts_opt {opt : Nat × Bytes} (writable : Writable opt)
    (behind : Bytes) :
    readOpts (optBytes opt ++ behind) = (do
      let (opts, data) ← readOpts behind
      .ok (opt :: opts, data)) := by
  obtain ⟨t, value⟩ := opt
  obtain ⟨positive, below, short⟩ := writable
  dsimp only at positive below short
  have type : (UInt8.ofNat t).toNat = t := count_toNat (by omega)
  have length : (UInt8.ofNat value.length).toNat = value.length :=
    count_toNat short
  have notEnd : UInt8.ofNat t ≠ 0xff := by
    intro same
    rw [same] at type
    change 0xff = t at type
    omega
  have notPad : UInt8.ofNat t ≠ 0 := by
    intro same
    rw [same] at type
    change 0 = t at type
    omega
  unfold optBytes
  dsimp only
  rw [List.cons_append, List.cons_append, readOpts.eq_def]
  dsimp only
  rw [if_neg notEnd, if_neg notPad, type, length, List.take_left' rfl,
    List.drop_left' rfl]

theorem readOpts_end (data : Bytes) :
    readOpts (0xff :: data) = .ok ([], data) := by
  rw [readOpts.eq_def]
  rfl

theorem readOpts_opts {opts : List (Nat × Bytes)}
    (writable : ∀ opt ∈ opts, Writable opt) (data : Bytes) :
    readOpts ((opts.map optBytes).flatten ++ 0xff :: data) =
      .ok (opts, data) := by
  induction opts with
  | nil =>
      rw [List.map_nil, List.flatten_nil, List.nil_append, readOpts_end]
  | cons opt rest ih =>
      rw [List.forall_mem_cons] at writable
      rw [List.map_cons, List.flatten_cons, List.append_assoc,
        readOpts_opt writable.1, ih writable.2, ok_bind]

theorem joinOpts_ok {opts : List (Nat × Bytes)}
    (writable : ∀ opt ∈ opts, Writable opt) :
    joinOpts opts = .ok (opts.map optBytes).flatten := by
  induction opts with
  | nil => rfl
  | cons opt rest ih =>
      rw [List.forall_mem_cons] at writable
      obtain ⟨_positive, below, short⟩ := writable.1
      unfold joinOpts packOpt
      rw [packBe_byte (by omega), ok_bind, packBe_byte short, ok_bind, ok_bind,
        ih writable.2, ok_bind]
      rfl

theorem readOpts_shorter {buf data : Bytes} {opts : List (Nat × Bytes)}
    (read : readOpts buf = .ok (opts, data)) (present : buf ≠ []) :
    data.length < buf.length := by
  fun_induction readOpts buf generalizing opts data with
  | case1 => exact absurd rfl present
  | case2 buf =>
      cases read
      exact Nat.lt_succ_self _
  | case3 buf _notEnd ih =>
      by_cases some_left : buf = []
      · subst some_left
        rw [readOpts] at read
        cases read
        exact Nat.zero_lt_one
      · have shorter := ih read some_left
        rw [List.length_cons]
        omega
  | case4 t => cases read
  | case5 t notEnd notPad n value ih =>
      obtain ⟨⟨others, left⟩, readRest, same⟩ := bind_eq_ok.mp read
      cases same
      simp only [List.length_cons]
      by_cases some_left : value.drop n.toNat = []
      · rw [some_left, readOpts] at readRest
        cases readRest
        exact Nat.zero_lt_succ _
      · have shorter := ih readRest some_left
        rw [List.length_drop] at shorter
        omega

/-- Behind pad bytes the end option, and more behind that. -/
def OnlyTrailer (buf : Bytes) : Prop :=
  (buf.dropWhile (· = 0)).head? = some 0xff ∧
    2 ≤ (buf.dropWhile (· = 0)).length

instance (buf : Bytes) : Decidable (OnlyTrailer buf) :=
  inferInstanceAs (Decidable (_ ∧ _))

/-- No options are read, but data behind the end option. -/
theorem readOpts_onlyTrailer {buf data : Bytes} {opts : List (Nat × Bytes)}
    (read : readOpts buf = .ok (opts, data)) :
    OnlyTrailer buf ↔ opts = [] ∧ data ≠ [] := by
  unfold OnlyTrailer
  fun_induction readOpts buf generalizing opts data with
  | case1 =>
      cases read
      simp
  | case2 buf =>
      cases read
      rw [List.dropWhile_cons_of_neg (by decide)]
      cases buf with
      | nil => simp
      | cons byte rest => simp
  | case3 buf _notEnd ih =>
      rw [List.dropWhile_cons_of_pos (by decide)]
      exact ih read
  | case4 t => cases read
  | case5 t notEnd notPad n value ih =>
      obtain ⟨⟨others, left⟩, readRest, same⟩ := bind_eq_ok.mp read
      cases same
      rw [List.dropWhile_cons_of_neg (by simpa using notPad)]
      simp [notEnd]

/-- The header of the message as it is packed: the hardware address is filled
up to its field. -/
def DHCP.packedHdr (self : DHCP) : DHCPHdr :=
  { self.toDHCPHdr with chaddr := packString 16 self.chaddr }

theorem take_packString {size count : Nat} {bytes : Bytes}
    (length : bytes.length = size) :
    (packString size (bytes.take count)).take count = bytes.take count := by
  unfold packString
  rw [List.take_take]
  by_cases within : count ≤ size
  · rw [min_eq_left within, List.take_append_of_le_length, List.take_take,
      min_self]
    rw [List.length_take]
    omega
  · have whole : bytes.take count = bytes :=
      List.take_of_length_le (by omega)
    rw [whole, min_eq_right (by omega), List.take_left' length]

theorem DHCPHdr.fits_iff (hdr : DHCPHdr) : DHCPHdr.format.Fits hdr ↔
    hdr.op < 256 ^ 1 ∧ hdr.hrd < 256 ^ 1 ∧ hdr.hln < 256 ^ 1 ∧
      hdr.hops < 256 ^ 1 ∧ hdr.xid < 256 ^ 4 ∧ hdr.secs < 256 ^ 2 ∧
      hdr.flags < 256 ^ 2 ∧ hdr.ciaddr < 256 ^ 4 ∧ hdr.yiaddr < 256 ^ 4 ∧
      hdr.siaddr < 256 ^ 4 ∧ hdr.giaddr < 256 ^ 4 ∧ hdr.chaddr.length = 16 ∧
      hdr.sname.length = 64 ∧ hdr.file.length = 128 ∧ hdr.magic < 256 ^ 4 ∧
      True :=
  Iff.rfl

/-- `struct` fills the hardware address up itself. -/
theorem packHdr_packedHdr (self : DHCP) :
    DHCPHdr.format.packHdr .big self.toDHCPHdr =
      DHCPHdr.format.packHdr .big self.packedHdr := by
  unfold StructFormat.packHdr StructFormat.pack DHCPHdr.format DHCP.packedHdr
  simp only [StructValues.pack, StructItem.pack, packString_packString]

variable {buf : Bytes} {self : DHCP}

/-- A message that was read: its header is packed as one that is read with the
same values, and its options and data are those behind it. -/
theorem parse_parts (parsed : DHCP.parse buf = .ok self) :
    DHCPHdr.format.packHdr .big self.toDHCPHdr =
        .ok (DHCPHdr.format.bytes .big self.packedHdr) ∧
      DHCPHdr.format.Fits self.packedHdr ∧
      (packString 16 self.chaddr).take self.hln = self.chaddr ∧
      readOpts (buf.drop 240) = .ok (self.opts, self.data) := by
  obtain ⟨⟨hdr, behind⟩, unpacked, rest⟩ :=
    bind_eq_ok.mp (packetInit_eq_ok.mp parsed)
  obtain ⟨⟨opts, data⟩, read, same⟩ := bind_eq_ok.mp rest
  cases same
  obtain ⟨fits, _enough, isBehind⟩ :=
    StructFormat.unpackHdr_fits (fun _values => rfl) unpacked
  rw [DHCPHdr.fits_iff] at fits
  obtain ⟨op, hrd, hln, hops, xid, secs, flags, ciaddr, yiaddr, siaddr, giaddr,
    chaddr, others⟩ := fits
  have filled : DHCPHdr.format.Fits
      { hdr with chaddr := packString 16 (hdr.chaddr.take hdr.hln) } := by
    rw [DHCPHdr.fits_iff]
    exact ⟨op, hrd, hln, hops, xid, secs, flags, ciaddr, yiaddr, siaddr, giaddr,
      packString_length _ _, others⟩
  refine ⟨?_, filled, take_packString chaddr, ?_⟩
  · rw [packHdr_packedHdr]
    exact StructFormat.packHdr_ok filled
  · rw [isBehind] at read
    exact read

/-- What is read of a written message: its options as they are found in front
of the data. -/
theorem parse_written (parsed : DHCP.parse buf = .ok self) (tail : Bytes) :
    DHCP.parse (DHCPHdr.format.bytes .big self.packedHdr ++ tail) =
      packetInit "DHCP" (some DHCPHdr.format.size) (fun _ => do
        let (opts, data) ← readOpts tail
        .ok { self with opts, data })
        (DHCPHdr.format.bytes .big self.packedHdr ++ tail) := by
  obtain ⟨_packed, fits, chaddr, _read⟩ := parse_parts parsed
  apply packetInit_congr
  unfold DHCP.unpack
  rw [@StructFormat.unpackHdr_bytes _ _ .big _ fits, ok_bind]
  dsimp only [DHCP.packedHdr]
  rw [chaddr]

/-- A message is read back from its bytes exactly where it has options, or no
data behind the end option. -/
theorem dhcp_reserialised_iff (parsed : DHCP.parse buf = .ok self) :
    (∃ out, self.bytes = .ok out ∧ DHCP.parse out = .ok self) ↔
      ¬ OnlyTrailer (buf.drop 240) := by
  obtain ⟨packed, _fits, _chaddr, read⟩ := parse_parts parsed
  have writable := readOpts_writable read
  rw [readOpts_onlyTrailer read]
  by_cases empty : self.opts = []
  · have written : self.bytes = .ok
        (DHCPHdr.format.bytes .big self.packedHdr ++ self.data) := by
      unfold DHCP.bytes DHCP.packOpts
      rw [packed, ok_bind, if_pos empty, ok_bind, List.append_nil]
    rw [written]
    constructor
    · rintro ⟨out, isOut, again⟩ ⟨_empty, trailer⟩
      cases isOut
      rw [parse_written parsed] at again
      obtain ⟨⟨opts, data⟩, readAgain, same⟩ :=
        bind_eq_ok.mp (packetInit_eq_ok.mp again)
      have shorter := readOpts_shorter readAgain trailer
      have sameData : data = self.data := by
        rw [Except.ok.injEq] at same
        exact congrArg DHCP.data same
      rw [sameData] at shorter
      exact lt_irrefl _ shorter
    · intro noTrailer
      have noData : self.data = [] :=
        not_not.mp fun trailer => noTrailer ⟨empty, trailer⟩
      refine ⟨_, rfl, ?_⟩
      rw [parse_written parsed]
      refine packetInit_eq_ok.mpr ?_
      rw [noData, readOpts, ok_bind]
      dsimp only
      rw [← empty, ← noData]
  · have written : self.bytes = .ok
        (DHCPHdr.format.bytes .big self.packedHdr ++
          ((self.opts.map optBytes).flatten ++ 0xff :: self.data)) := by
      unfold DHCP.bytes DHCP.packOpts
      rw [packed, ok_bind, if_neg empty, joinOpts_ok writable, ok_bind, ok_bind]
      simp
    constructor
    · intro _again
      exact fun trailer => empty trailer.1
    · intro _noTrailer
      refine ⟨_, written, ?_⟩
      rw [parse_written parsed]
      refine packetInit_eq_ok.mpr ?_
      rw [readOpts_opts writable, ok_bind]

def discover : Bytes :=
  DHCPHdr.format.bytes .big {} ++ [0x00, 0x35, 0x01, 0x01, 0xff, 0x00]

def discoverRead : DHCP :=
  { ({ chaddr := zeros 6 } : DHCPHdr) with
    opts := [(53, [0x01])]
    data := [0x00] }

theorem parse_discover : DHCP.parse discover = .ok discoverRead := by
  decide +kernel

theorem discover_reserialised :
    ∃ out, discoverRead.bytes = .ok out ∧ DHCP.parse out = .ok discoverRead :=
  (dhcp_reserialised_iff parse_discover).mpr (by decide +kernel)

def bare : Bytes :=
  DHCPHdr.format.bytes .big {} ++ [0xff, 0x35, 0x01, 0x01]

def bareRead : DHCP :=
  { ({ chaddr := zeros 6 } : DHCPHdr) with
    opts := []
    data := [0x35, 0x01, 0x01] }

/-- The data behind the end option becomes an option. -/
theorem bare_not_reserialised :
    DHCP.parse bare = .ok bareRead ∧ bareRead.hln ≤ 16 ∧
      ∃ out, bareRead.bytes = .ok out ∧
        DHCP.parse out =
          .ok { bareRead with opts := [(53, [0x01])], data := [] } ∧
        DHCP.parse out ≠ .ok bareRead := by
  have read : DHCP.parse bare = .ok bareRead := by decide +kernel
  refine ⟨read, by decide, DHCPHdr.format.bytes .big {} ++ [0x35, 0x01, 0x01],
    by decide +kernel, by decide +kernel, by decide +kernel⟩

end DpktNg.Dhcp
