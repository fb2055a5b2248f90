/-
Which errors parsing a message raises.  Every name and every character string
is decoded as UTF-8, and the error of the decoder is the only one that is not
of the library.  What is decoded follows from the layout of the buffer alone.
-/

import DpktNg.Dns.Message
import DpktNg.Library.Checks

namespace DpktNg.Dns

open Library

section Layout

variable (buf : Bytes)

/-- The name at an offset, not decoded yet, and where it ends. -/
def nameShown (off : Nat) : Shown Bytes Nat :=
  match unpackLabels buf off off 0 0 [] with
  | .ok (labels, behind) => ⟨[joinDots labels], some behind⟩
  | .error _ => .stop

/-- A name after which nothing follows that is read. -/
def lastNameShown (off : Nat) : Shown Bytes Unit :=
  (nameShown buf off).andThen fun _behind => .pass ()

def charStrings : Bytes → List Bytes
  | [] => []
  | n :: rest => rest.take n.toNat :: charStrings (rest.drop n.toNat)
termination_by rdata => rdata.length
decreasing_by
  simp only [List.length_drop, List.length_cons]
  omega

/-- The texts in a record's data, by type; `off` is where the data starts. -/
def rdataShown (type : Nat) (rdata : Bytes) (off : Nat) : Shown Bytes Unit :=
  if type = dnsA then .pass ()
  else if type = dnsNs then lastNameShown buf off
  else if type = dnsCname then lastNameShown buf off
  else if type = dnsPtr then lastNameShown buf off
  else if type = dnsSoa then
    (nameShown buf off).andThen fun off =>
      (nameShown buf off).andThen fun off =>
        (Shown.require (off + 20 ≤ buf.length)).andThen fun _ => .pass ()
  else if type = dnsMx then
    (Shown.require (2 ≤ rdata.length)).andThen fun _ =>
      lastNameShown buf (off + 2)
  else if type = dnsTxt ∨ type = dnsHinfo then ⟨charStrings rdata, some ()⟩
  else if type = dnsAaaa then .pass ()
  else if type = dnsNull then .pass ()
  else if type = dnsSrv then
    (Shown.require (6 ≤ rdata.length)).andThen fun _ =>
      lastNameShown buf (off + 6)
  else if type = dnsOpt then .pass ()
  else .stop

def questionShown (off : Nat) : Shown Bytes Nat :=
  (nameShown buf off).andThen fun off =>
    (Shown.require (off + 4 ≤ buf.length)).andThen fun _ => .pass (off + 4)

/-- The type of the record whose fixed fields start at an offset. -/
def typeAt (off : Nat) : Nat := beNat (cut buf off (off + 2))

/-- The length of its data. -/
def rdlenAt (off : Nat) : Nat := beNat (cut buf (off + 8) (off + 10))

def recordShown (off : Nat) : Shown Bytes Nat :=
  (nameShown buf off).andThen fun off =>
    (Shown.require (off + 10 ≤ buf.length)).andThen fun _ =>
      (rdataShown buf (typeAt buf off)
        (cut buf (off + 10) (off + 10 + rdlenAt buf off)) (off + 10)).andThen
          fun _ => .pass (off + 10 + rdlenAt buf off)

def headerField (index : Nat) : Nat :=
  beNat (cut buf (2 * index) (2 * index + 2))

/-- All texts of a message, in the order in which they are read, up to the
first place that cannot be read. -/
def messageShown : Shown Bytes Unit :=
  (Shown.require (12 ≤ buf.length)).andThen fun _ =>
    (Shown.many (questionShown buf) (headerField buf 2) 12).andThen fun off =>
      (Shown.many (recordShown buf) (headerField buf 3) off).andThen fun off =>
        (Shown.many (recordShown buf) (headerField buf 4) off).andThen
          fun off =>
            (Shown.many (recordShown buf) (headerField buf 5) off).andThen
              fun _off => .pass ()

def decodedTexts : List Bytes := (messageShown buf).texts

end Layout

def NotUtf8 (text : Bytes) : Prop := decodeUtf8 text = none

section Checking

variable (buf : Bytes)

theorem unpackLabels_raisesOnly (off startOff savedOff nameLength : Nat)
    (name : List Bytes) :
    RaisesOnly HeaderError
      (unpackLabels buf off startOff savedOff nameLength name) := by
  fun_induction unpackLabels buf off startOff savedOff nameLength name with
  | case1 off startOff savedOff nameLength name inside n root =>
      exact raisesOnly_ok _
  | case2 off startOff savedOff nameLength name inside n notRoot isPointer ih =>
      apply RaisesOnly.bind
      · unfold unpackBe
        split
        · exact raisesOnly_ok _
        · exact raisesOnly_error.mpr (Or.inl rfl)
      · intro word _read
        dsimp only
        split
        · exact raisesOnly_error.mpr (Or.inr trivial)
        · rename_i below
          exact ih word below
  | case3 => exact raisesOnly_error.mpr (Or.inr trivial)
  | case4 off startOff savedOff nameLength name inside n notRoot notPointer
      isLabel label longer short ih => exact ih
  | case5 => exact raisesOnly_error.mpr (Or.inr trivial)
  | case6 => exact raisesOnly_error.mpr (Or.inr trivial)

theorem unpackName_checks (off : Nat) :
    Checks HeaderError NotUtf8 Prod.snd (nameShown buf off)
      (unpackName buf off) := by
  have raises := unpackLabels_raisesOnly buf off off 0 0 []
  unfold unpackName nameShown
  cases result : unpackLabels buf off off 0 0 [] with
  | error problem => exact Checks.error (raises problem result)
  | ok found =>
      obtain ⟨labels, behind⟩ := found
      rw [ok_bind]
      dsimp only
      apply Checks.one
      · intro bad
        have notUtf8 : decodeUtf8 (joinDots labels) = none := bad
        rw [notUtf8]
        refine ⟨_, rfl, ?_⟩
        intro impossible
        rcases impossible with struct | library
        · cases struct
        · exact library
      · intro fine
        obtain ⟨text, decoded⟩ := Option.ne_none_iff_exists'.mp fine
        rw [decoded]
        exact ⟨_, rfl, rfl⟩

theorem unpackText_checks (rdata : Bytes) :
    Checks HeaderError NotUtf8 (fun _items => ())
      ⟨charStrings rdata, some ()⟩ (unpackText rdata) := by
  fun_induction unpackText rdata with
  | case1 =>
      rw [charStrings]
      exact Checks.ok rfl
  | case2 n rest notUtf8 =>
      rw [charStrings]
      refine ⟨?_, ?_, ?_⟩
      · intro _bad
        refine ⟨_, rfl, ?_⟩
        intro impossible
        rcases impossible with struct | library
        · cases struct
        · exact library
      · intro fine
        exact absurd notUtf8 (fine _ List.mem_cons_self)
      · intro fine
        exact absurd notUtf8 (fine _ List.mem_cons_self)
  | case3 n rest item decoded ih =>
      have first : Checks HeaderError NotUtf8 (fun _unit => ())
          ⟨[rest.take n.toNat], some ()⟩ (.ok () : Except PyError Unit) := by
        apply Checks.one
        · intro bad
          have notUtf8 : decodeUtf8 (rest.take n.toNat) = none := bad
          rw [decoded] at notUtf8
          cases notUtf8
        · intro _fine
          exact ⟨(), rfl, rfl⟩
      have others : Checks HeaderError NotUtf8 (fun _items => ())
          ⟨charStrings (rest.drop n.toNat), some ()⟩
          (unpackText (rest.drop n.toNat) >>= fun items =>
            .ok (TextItem.str item :: items)) := ih.map fun _items => rfl
      rw [charStrings]
      change Checks _ _ _
        ((⟨[rest.take n.toNat], some ()⟩ : Shown Bytes Unit).andThen
          fun _ => ⟨charStrings (rest.drop n.toNat), some ()⟩)
        ((.ok () : Except PyError Unit) >>= fun _ => _)
      exact first.bind fun _unit _ => others

theorem unpackFields_checks {α β : Type} {view : α → β} {shown : Shown Bytes β}
    {widths : List Nat} {bytes : Bytes} {enough : Prop} [Decidable enough]
    {next : List Nat → Except PyError α}
    (exact_length : bytes.length = widths.sum ↔ enough)
    (behind : Checks HeaderError NotUtf8 view shown
      (next (fieldValues widths bytes))) :
    Checks HeaderError NotUtf8 view
      ((Shown.require enough).andThen fun _ => shown)
      (unpackFields widths bytes >>= next) := by
  apply Checks.require
  · intro holds
    have read : unpackFields widths bytes =
        .ok (fieldValues widths bytes) := if_pos (exact_length.mpr holds)
    rw [read]
    exact behind
  · intro fails
    have short : unpackFields widths bytes = .error .structError :=
      if_neg fun same => fails (exact_length.mp same)
    rw [short]
    exact ⟨_, rfl, Or.inl rfl⟩

theorem cut_length_iff {size : Nat} (positive : 0 < size) (off : Nat) :
    (cut buf off (off + size)).length = size ↔ off + size ≤ buf.length := by
  unfold cut
  rw [List.length_take, List.length_drop]
  omega

theorem take_length_iff (size : Nat) (bytes : Bytes) :
    (bytes.take size).length = size ↔ size ≤ bytes.length := by
  rw [List.length_take]
  omega

theorem unpackQ_checks (off : Nat) :
    Checks HeaderError NotUtf8 Prod.snd (questionShown buf off)
      (unpackQ buf off) := by
  refine (unpackName_checks buf off).bind fun found _read => ?_
  obtain ⟨name, behind⟩ := found
  refine unpackFields_checks (cut_length_iff buf (by decide) behind) ?_
  dsimp only [fieldValues]
  exact Checks.ok rfl

theorem lastName_checks {α : Type} (off : Nat) (wrap : PyStr × Nat → α) :
    Checks HeaderError NotUtf8 (fun _value => ()) (lastNameShown buf off)
      (unpackName buf off >>= fun found => .ok (wrap found)) :=
  (unpackName_checks buf off).bind fun _found _read => Checks.ok rfl

theorem unpackRdata_checks (rr : RR) (off : Nat) :
    Checks HeaderError NotUtf8 (fun _rr => ())
      (rdataShown buf rr.type rr.rdata off) (unpackRdata rr buf off) := by
  unfold rdataShown unpackRdata
  refine Checks.branch (fun _isA => Checks.ok rfl) fun _ => ?_
  refine Checks.branch (fun _isNs => lastName_checks buf off _) fun _ => ?_
  refine Checks.branch (fun _isCname => lastName_checks buf off _) fun _ => ?_
  refine Checks.branch (fun _isPtr => lastName_checks buf off _) fun _ => ?_
  refine Checks.branch (fun _isSoa => ?soa) fun _ => ?_
  case soa =>
    refine (unpackName_checks buf off).bind fun mname _read => ?_
    refine (unpackName_checks buf mname.2).bind fun rname _read => ?_
    refine unpackFields_checks
      (cut_length_iff buf (by decide) rname.2) ?_
    dsimp only [fieldValues]
    exact Checks.ok rfl
  refine Checks.branch (fun _isMx => ?mx) fun _ => ?_
  case mx =>
    refine unpackFields_checks (take_length_iff 2 rr.rdata) ?_
    exact lastName_checks buf (off + 2) _
  refine Checks.branch (fun _isText => ?text) fun _ => ?_
  case text => exact (unpackText_checks rr.rdata).map fun _text => rfl
  refine Checks.branch (fun _isAaaa => Checks.ok rfl) fun _ => ?_
  refine Checks.branch (fun _isNull => Checks.ok rfl) fun _ => ?_
  refine Checks.branch (fun _isSrv => ?srv) fun _ => ?_
  case srv =>
    refine unpackFields_checks (take_length_iff 6 rr.rdata) ?_
    exact lastName_checks buf (off + 6) _
  refine Checks.branch (fun _isOpt => Checks.ok rfl) fun _ => ?_
  exact Checks.error (Or.inr trivial)

theorem recordFields (off : Nat) :
    fieldValues [2, 2, 4, 2] (cut buf off (off + 10)) =
      [typeAt buf off, beNat (cut buf (off + 2) (off + 4)),
        beNat (cut buf (off + 4) (off + 8)), rdlenAt buf off] := by
  simp [fieldValues, typeAt, rdlenAt, cut, List.take_take, List.drop_take,
    List.drop_drop, Nat.add_sub_add_left]

theorem unpackRr_checks (off : Nat) :
    Checks HeaderError NotUtf8 Prod.snd (recordShown buf off)
      (unpackRr buf off) := by
  refine (unpackName_checks buf off).bind fun found _read => ?_
  obtain ⟨name, behind⟩ := found
  refine unpackFields_checks (cut_length_iff buf (by decide) behind) ?_
  rw [recordFields]
  dsimp only
  exact (unpackRdata_checks buf
    { name, type := typeAt buf behind
      cls := beNat (cut buf (behind + 2) (behind + 4))
      ttl := beNat (cut buf (behind + 4) (behind + 8))
      rlen := rdlenAt buf behind
      rdata := cut buf (behind + 10) (behind + 10 + rdlenAt buf behind) }
    (behind + 10)).bind fun _rr _read => Checks.ok rfl

theorem unpack_checks :
    Checks HeaderError NotUtf8 (fun _dns => ()) (messageShown buf)
      (DNS.unpack buf) := by
  have spelled : DNS.unpack buf = _ := @header_bind _ [2, 2, 2, 2, 2, 2] buf _
  rw [spelled]
  unfold messageShown
  apply Checks.require
  · intro whole
    rw [if_neg (by change ¬buf.length < 12; omega)]
    have fields : fieldValues [2, 2, 2, 2, 2, 2]
        (buf.take [2, 2, 2, 2, 2, 2].sum) =
          [headerField buf 0, headerField buf 1, headerField buf 2,
            headerField buf 3, headerField buf 4, headerField buf 5] := by
      simp [fieldValues, headerField, cut, List.take_take, List.drop_take,
        List.drop_drop]
    rw [fields]
    dsimp only
    refine (Checks.readMany (unpackQ_checks buf) 12 _).bind
      fun qd _read => ?_
    refine (Checks.readMany (unpackRr_checks buf) qd.2 _).bind
      fun an _read => ?_
    refine (Checks.readMany (unpackRr_checks buf) an.2 _).bind
      fun ns _read => ?_
    refine (Checks.readMany (unpackRr_checks buf) ns.2 _).bind
      fun ar _read => ?_
    exact Checks.ok rfl
  · intro short
    rw [if_pos (by change buf.length < 12; omega)]
    exact ⟨_, rfl, Or.inl rfl⟩

end Checking

/-- Parsing returns a message or raises an error of the library exactly when
all names and character strings that it comes across are UTF-8. -/
theorem dns_parse_raisesOnly_iff (buf : Bytes) :
    ((∃ dns, DNS.parse buf = .ok dns) ∨
        ∃ problem, DNS.parse buf = .error problem ∧ problem.IsUnpackError) ↔
      ∀ text ∈ decodedTexts buf, decodeUtf8 text ≠ none := by
  have escapes : Escapes PyError.IsUnpackError (DNS.parse buf) ↔
      ∃ text ∈ decodedTexts buf, NotUtf8 text :=
    packetInit_escapes.trans (unpack_checks buf).escapes_iff
  constructor
  · intro expected text member bad
    obtain ⟨problem, raised, refused⟩ := escapes.mpr ⟨text, member, bad⟩
    rcases expected with ⟨dns, parsed⟩ | ⟨other, raisedOther, library⟩
    · rw [raised] at parsed
      cases parsed
    · rw [raised] at raisedOther
      cases raisedOther
      exact refused library
  · intro fine
    have raises : RaisesOnly PyError.IsUnpackError (DNS.parse buf) := by
      rw [← not_escapes_iff, escapes]
      rintro ⟨text, member, bad⟩
      exact fine text member bad
    cases result : DNS.parse buf with
    | ok dns => exact Or.inl ⟨dns, rfl⟩
    | error problem => exact Or.inr ⟨problem, rfl, raises problem result⟩

def strayByteQuery : Bytes :=
  [0, 0, 1, 0, 0, 1, 0, 0, 0, 0, 0, 0] ++ [1, 0xff, 0] ++ [0, 1, 0, 1]

theorem strayByteQuery_raises :
    ¬∀ buf, (∃ dns, DNS.parse buf = .ok dns) ∨
      ∃ problem, DNS.parse buf = .error problem ∧ problem.IsUnpackError := by
  intro expected
  have labels : unpackLabels strayByteQuery 12 12 0 0 [] =
      .ok ([[0xff]], 15) := by
    simp [unpackLabels, strayByteQuery, cut]
  have notUtf8 : decodeUtf8 (joinDots [[0xff]]) = none := by decide +kernel
  have name : unpackName strayByteQuery 12 = .error .unicodeError := by
    unfold unpackName
    rw [labels, ok_bind]
    dsimp only
    rw [notUtf8]
  have question : unpackQ strayByteQuery 12 = .error .unicodeError := by
    unfold unpackQ
    rw [name]
    rfl
  have unpacked : DNS.unpack strayByteQuery = .error .unicodeError := by
    have spelled : DNS.unpack strayByteQuery = _ :=
      @header_bind _ [2, 2, 2, 2, 2, 2] strayByteQuery _
    have fields : fieldValues [2, 2, 2, 2, 2, 2]
        (strayByteQuery.take [2, 2, 2, 2, 2, 2].sum) = [0, 256, 1, 0, 0, 0] := by
      decide
    rw [spelled, if_neg (by decide), fields]
    dsimp only
    rw [readMany, question]
    rfl
  have raised : DNS.parse strayByteQuery = .error .unicodeError := by
    unfold DNS.parse packetInit
    rw [unpacked]
  rcases expected strayByteQuery with ⟨dns, parsed⟩ | ⟨problem, other, library⟩
  · rw [raised] at parsed
    cases parsed
  · rw [raised] at other
    cases other
    exact library

end DpktNg.Dns
