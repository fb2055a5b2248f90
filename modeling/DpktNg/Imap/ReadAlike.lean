/-
When a list text means the same to both parsers of IMAP lists: the top one takes
braces for a literal, the other for the bytes of an atom.
-/

import DpktNg.Imap.ListReading

namespace DpktNg.Imap

open Library

/-! ### When both parsers read alike -/

def litSize (size : Bytes) : Nat :=
  if isDigits size then intOfDigits size else 0

/-- Text in braces, with what `_parse_imap_list` takes for the bytes of a
literal, reads as an atom: no line end comes behind the braces, and the bytes
end where an atom ends. -/
def BracesAreAtom (size behind : Bytes) : Prop :=
  behind.head? ≠ some 0x0d ∧ behind.head? ≠ some 0x0a ∧
    (size ++ behind.take (litSize size)).all isAtomByte = true ∧
    (behind.drop (litSize size)).head?.all endsAtom = true

instance (size behind : Bytes) : Decidable (BracesAreAtom size behind) :=
  inferInstanceAs (Decidable (_ ∧ _ ∧ _ ∧ _))

def sizeStr (rest : Bytes) : Bytes := rest.takeWhile (· ≠ 0x7d)

def behindSize (rest : Bytes) : Bytes := rest.drop ((sizeStr rest).length + 1)

/-- What stands behind an atom in braces, from behind its opening brace. -/
def behindBraces (rest : Bytes) : Option Bytes :=
  if 0x7d ∈ rest ∧ BracesAreAtom (sizeStr rest) (behindSize rest) then
    some ((behindSize rest).drop (litSize (sizeStr rest)))
  else none

theorem behindBraces_length {rest behind : Bytes}
    (found : behindBraces rest = some behind) :
    behind.length ≤ rest.length := by
  unfold behindBraces at found
  split at found
  · cases found
    unfold behindSize
    rw [List.length_drop, List.length_drop]
    omega
  · cases found

/-- Nothing but spaces, up to the end or to a closing parenthesis. -/
def endsList (rest : Bytes) : Bool :=
  (rest.dropWhile (· = 0x20)).head?.all (· = 0x29)

/-- Whether a text means the same to `_parse_imap_list` as to
`_parse_imap_sublist`, where one more parenthesis closes it; `begun` says
whether an atom has begun. -/
def readAlike (begun : Bool) (data : Bytes) : Bool :=
  match data with
  | [] => true
  | byte :: rest =>
      if byte = 0x29 then endsList rest
      else if byte = 0x28 then
        match _ends : listEnd 0 rest with
        | .closed behind => readAlike begun behind
        | .inList => true
        | .inQuote => false
      else if byte = 0x20 then readAlike false rest
      else if byte = 0x22 then
        match _closed : behindQuote rest with
        | some behind => readAlike false behind
        | none => false
      else if byte = 0x7b then
        match _found : behindBraces rest with
        | some behind => !begun && readAlike false behind
        | none => false
      else readAlike true rest
termination_by data.length
decreasing_by
  · exact Nat.lt_succ_of_lt (listEnd_length _ends)
  · exact Nat.lt_succ_self _
  · exact Nat.lt_succ_of_lt (behindQuote_length _closed)
  · exact Nat.lt_succ_of_le (behindBraces_length _found)
  · exact Nat.lt_succ_self _

section Equations

variable (begun : Bool) (rest : Bytes)

theorem readAlike_close : readAlike begun (0x29 :: rest) = endsList rest := by
  rw [readAlike, if_pos rfl]

theorem readAlike_open :
    readAlike begun (0x28 :: rest) =
      match listEnd 0 rest with
      | .closed behind => readAlike begun behind
      | .inList => true
      | .inQuote => false := by
  rw [readAlike, if_neg (by decide), if_pos rfl]
  split <;> simp_all

theorem readAlike_space :
    readAlike begun (0x20 :: rest) = readAlike false rest := by
  rw [readAlike, if_neg (by decide), if_neg (by decide), if_pos rfl]

theorem readAlike_quoted :
    readAlike begun (0x22 :: rest) =
      match behindQuote rest with
      | some behind => readAlike false behind
      | none => false := by
  rw [readAlike, if_neg (by decide), if_neg (by decide), if_neg (by decide),
    if_pos rfl]
  split <;> simp_all

theorem readAlike_brace :
    readAlike begun (0x7b :: rest) =
      match behindBraces rest with
      | some behind => !begun && readAlike false behind
      | none => false := by
  rw [readAlike, if_neg (by decide), if_neg (by decide), if_neg (by decide),
    if_neg (by decide), if_pos rfl]
  split <;> simp_all

end Equations

theorem readAlike_atomByte {byte : UInt8} (atom : isAtomByte byte = true)
    (other : byte ≠ 0x7b) (begun : Bool) (rest : Bytes) :
    readAlike begun (byte :: rest) = readAlike true rest := by
  obtain ⟨notOpen, notClose, notSpace, notQuote⟩ := of_decide_eq_true atom
  rw [readAlike, if_neg notClose, if_neg notOpen, if_neg notSpace,
    if_neg notQuote, if_neg other]

/-! ### Braces -/

theorem skipByte_parts (byte : UInt8) (data : Bytes) :
    ∃ skipped, data = skipped ++ skipByte byte data ∧
      (skipped = [] ∧ data.head? ≠ some byte ∨ skipped = [byte]) := by
  unfold skipByte
  by_cases here : data.head? = some byte
  · rw [if_pos here]
    exact ⟨[byte], (List.cons_head?_tail here).symm, Or.inr rfl⟩
  · rw [if_neg here]
    exact ⟨[], rfl, Or.inl ⟨rfl, here⟩⟩

/-- The line end that a literal skips, if there is any of it. -/
theorem skippedLineEnd (data : Bytes) :
    ∃ skipped, data = skipped ++ skipByte 0x0a (skipByte 0x0d data) ∧
      skipped.all isAtomByte = true ∧
      (skipped = [] → data.head? ≠ some 0x0d ∧ data.head? ≠ some 0x0a) := by
  obtain ⟨first, parted, firstIs⟩ := skipByte_parts 0x0d data
  obtain ⟨second, parted', secondIs⟩ := skipByte_parts 0x0a (skipByte 0x0d data)
  refine ⟨first ++ second, ?_, ?_, ?_⟩
  · rw [List.append_assoc, ← parted', ← parted]
  · rw [List.all_append, Bool.and_eq_true]
    constructor
    · rcases firstIs with ⟨rfl, _⟩ | rfl <;> decide
    · rcases secondIs with ⟨rfl, _⟩ | rfl <;> decide
  · intro none
    obtain ⟨rfl, rfl⟩ := List.append_eq_nil_iff.mp none
    have same : skipByte 0x0d data = data := parted.symm
    rw [same] at secondIs
    exact ⟨(firstIs.resolve_right nofun).2, (secondIs.resolve_right nofun).2⟩

theorem parted_at_brace {rest : Bytes} (present : 0x7d ∈ rest) :
    rest = sizeStr rest ++ 0x7d :: behindSize rest := by
  unfold behindSize sizeStr
  induction rest with
  | nil => cases present
  | cons byte rest ih =>
      by_cases here : byte = 0x7d
      · subst here
        rfl
      · have later := (List.mem_cons.mp present).resolve_left (Ne.symm here)
        rw [List.takeWhile_cons_of_pos (by simpa using here)]
        exact congrArg (byte :: ·) (ih later)

def literalBytes (rest : Bytes) : Bytes :=
  skipByte 0x0a (skipByte 0x0d (behindSize rest))

theorem literalFrom_eq (rest : Bytes) :
    literalFrom rest =
      (0x7b :: (sizeStr rest ++
          0x7d :: (literalBytes rest).take (litSize (sizeStr rest))),
        (literalBytes rest).drop (litSize (sizeStr rest))) := by
  unfold literalFrom
  dsimp only
  rw [List.append_assoc, List.append_assoc]
  rfl

theorem literalFrom_of_atom {rest behind : Bytes}
    (found : behindBraces rest = some behind) :
    ∃ text, literalFrom rest = (0x7b :: text, behind) ∧ rest = text ++ behind ∧
      text.all isAtomByte = true ∧ behind.head?.all endsAtom = true := by
  unfold behindBraces at found
  split at found
  · rename_i both
    obtain ⟨present, notReturn, notFeed, atoms, ends⟩ := both
    cases found
    have unskipped : literalBytes rest = behindSize rest := by
      unfold literalBytes skipByte
      rw [if_neg notReturn, if_neg notFeed]
    refine ⟨sizeStr rest ++
      0x7d :: (behindSize rest).take (litSize (sizeStr rest)),
      ?_, ?_, ?_, ends⟩
    · rw [literalFrom_eq, unskipped]
    · rw [List.append_assoc, List.cons_append, List.take_append_drop]
      exact parted_at_brace present
    · rw [List.all_append, Bool.and_eq_true] at atoms
      rw [List.all_append, List.all_cons, atoms.1, atoms.2]
      rfl
  · cases found

/-- Where an atom is the literal, nothing was skipped, and the atom ends where
the literal does. -/
theorem unskipped_of_run {data : Bytes} {count : Nat}
    (run : data.takeWhile isAtomByte =
      (skipByte 0x0a (skipByte 0x0d data)).take count) :
    skipByte 0x0a (skipByte 0x0d data) = data ∧ data.head? ≠ some 0x0d ∧
      data.head? ≠ some 0x0a ∧ (data.take count).all isAtomByte = true ∧
      data.drop count = data.dropWhile isAtomByte := by
  obtain ⟨skipped, whole, atoms, nothing⟩ := skippedLineEnd data
  have none : skipped = [] := by
    by_contra some_
    have longer := takeWhile_of_all atoms (skipByte 0x0a (skipByte 0x0d data))
    rw [← whole, run] at longer
    have within : ((skipByte 0x0a (skipByte 0x0d data)).take count).all
        isAtomByte = true := by
      rw [← run]
      exact List.all_takeWhile
    have bound := take_all_length within
    have lengths := congrArg List.length longer
    have positive := List.length_pos_iff.mpr some_
    rw [List.length_append] at lengths
    omega
  rw [none, List.nil_append] at whole
  rw [← whole] at run
  have split := List.take_append_drop count data
  rw [← run] at split
  refine ⟨whole.symm, (nothing none).1, (nothing none).2, ?_, ?_⟩
  · rw [← run]
    exact List.all_takeWhile
  · exact List.append_cancel_left
      (split.trans List.takeWhile_append_dropWhile.symm)

theorem endsAtom_of_run {data : Bytes}
    (noList : (data.dropWhile isAtomByte).head? ≠ some 0x28) :
    (data.dropWhile isAtomByte).head?.all endsAtom = true := by
  have stops := List.head?_dropWhile_not isAtomByte data
  cases next : (data.dropWhile isAtomByte).head? with
  | none => rfl
  | some byte =>
      rw [next] at noList stops
      rcases byte_kinds byte with rfl | ⟨ends, _other⟩ | atom
      · exact absurd rfl noList
      · exact ends
      · exact absurd (atom.symm.trans stops) Bool.noConfusion

theorem behindBraces_of_atom {rest : Bytes}
    (same : 0x7b :: rest.takeWhile isAtomByte = (literalFrom rest).1)
    (noList : (rest.dropWhile isAtomByte).head? ≠ some 0x28) :
    behindBraces rest = some (literalFrom rest).2 := by
  rw [literalFrom_eq, List.cons.injEq] at same
  have allAtoms := @List.all_takeWhile _ isAtomByte rest
  rw [same.2, List.all_append, Bool.and_eq_true, List.all_cons,
    Bool.and_eq_true] at allAtoms
  have present : 0x7d ∈ rest := by
    have inside : (0x7d : UInt8) ∈ rest.takeWhile isAtomByte := by
      rw [same.2]
      exact List.mem_append_right _ List.mem_cons_self
    exact (List.takeWhile_sublist isAtomByte).mem inside
  have parted := parted_at_brace present
  have run : rest.takeWhile isAtomByte =
      sizeStr rest ++ 0x7d :: (behindSize rest).takeWhile isAtomByte := by
    conv_lhs => rw [parted]
    rw [takeWhile_of_all allAtoms.1, List.takeWhile_cons_of_pos allAtoms.2.1]
  have ends : rest.dropWhile isAtomByte =
      (behindSize rest).dropWhile isAtomByte := by
    conv_lhs => rw [parted]
    rw [List.dropWhile_append_of_pos (List.all_eq_true.mp allAtoms.1),
      List.dropWhile_cons_of_pos allAtoms.2.1]
  rw [run] at same
  obtain ⟨unskipped, notReturn, notFeed, atoms, behind⟩ := unskipped_of_run
    (List.cons.inj (List.append_cancel_left same.2)).2
  have ended : ((behindSize rest).drop
      (litSize (sizeStr rest))).head?.all endsAtom = true := by
    rw [behind, ← ends]
    exact endsAtom_of_run noList
  have allAtom : (sizeStr rest ++
      (behindSize rest).take (litSize (sizeStr rest))).all isAtomByte =
        true := by
    rw [List.all_append, allAtoms.1, atoms]
    rfl
  unfold behindBraces
  rw [if_pos ⟨present, notReturn, notFeed, allAtom, ended⟩, literalFrom_eq]
  unfold literalBytes
  rw [unskipped]

/-! ### The two parsers on one text -/

/-- From here the parsers find the same items, and behind them there is nothing
more. -/
def Agree (items : List Item) (buf data : Bytes) : Prop :=
  imapListFrom items buf data = (sublist items buf (data ++ [0x29])).1 ∧
    endsList (sublist items buf (data ++ [0x29])).2 = true

theorem Agree.of_step {items items' : List Item} {buf buf' data data' : Bytes}
    (top : imapListFrom items buf data = imapListFrom items' buf' data')
    (nested : sublist items buf (data ++ [0x29]) =
      sublist items' buf' (data' ++ [0x29])) :
    Agree items buf data ↔ Agree items' buf' data' := by
  unfold Agree
  rw [top, nested]

theorem agree_atom (items : List Item) {rest behind : Bytes}
    (found : behindBraces rest = some behind) :
    Agree items [] (0x7b :: rest) ↔
      Agree (items ++ [.bytes (literalFrom rest).1]) [] behind := by
  obtain ⟨text, literal, rfl, atoms, ends⟩ := literalFrom_of_atom found
  refine Agree.of_step ?_ ?_
  · rw [imapListFrom_literal, literal, withAtom_nil]
  · have all : ((0x7b : UInt8) :: text).all isAtomByte = true := by
      rw [List.all_cons, atoms]
      rfl
    have run := sublist_run items [] all (behind ++ [0x29])
    rw [List.nil_append] at run
    rw [List.cons_append, List.append_assoc, ← List.cons_append, run, literal]
    -- the byte behind the atom ends it
    cases behind with
    | nil => exact sublist_endsAtom rfl items _ []
    | cons byte later => exact sublist_endsAtom ends items _ (later ++ [0x29])

theorem agree_brace (items : List Item) (buf rest : Bytes) :
    Agree items buf (0x7b :: rest) ↔ buf = [] ∧
      ∃ behind, behindBraces rest = some behind ∧
        Agree (items ++ [.bytes (literalFrom rest).1]) [] behind := by
  constructor
  · intro agree
    have items' := agree.1
    obtain ⟨more, top, _more⟩ := imapListFrom_grows
      (withAtom items buf ++ [.bytes (literalFrom rest).1]) []
      (literalFrom rest).2
    have begun : buf ++ [0x7b] ≠ [] :=
      List.append_ne_nil_of_right_ne_nil buf (List.cons_ne_nil _ _)
    obtain ⟨first, others, nested, shape⟩ := sublist_first items begun rest
    rw [imapListFrom_literal, top, List.cons_append,
      sublist_atomByte (by decide), nested] at items'
    by_cases fresh : buf = []
    · subst fresh
      rw [withAtom_nil, List.append_assoc] at items'
      have same := (List.cons.inj (List.append_cancel_left items')).1
      refine ⟨rfl, (literalFrom rest).2, ?_⟩
      rcases shape with ⟨inner, rfl⟩ | ⟨rfl, noList⟩
      · cases same
      · have found :=
          behindBraces_of_atom (Item.bytes.inj same).symm noList
        exact ⟨found, (agree_atom items found).mp agree⟩
    · rw [withAtom_present fresh, List.append_assoc, List.append_assoc]
        at items'
      have same := (List.cons.inj (List.append_cancel_left items')).1
      rcases shape with ⟨inner, rfl⟩ | ⟨rfl, _noList⟩
      · cases same
      · have lengths := congrArg List.length (Item.bytes.inj same)
        rw [List.length_append, List.length_append,
          List.length_singleton] at lengths
        omega
  · rintro ⟨rfl, behind, found, agree⟩
    exact (agree_atom items found).mpr agree

theorem endsList_append (rest : Bytes) :
    endsList (rest ++ [0x29]) = endsList rest := by
  unfold endsList
  induction rest with
  | nil => rfl
  | cons byte rest ih =>
      by_cases space : byte = 0x20
      · subst space
        exact ih
      · rw [List.cons_append, List.dropWhile_cons_of_neg (by simpa using space),
          List.dropWhile_cons_of_neg (by simpa using space)]
        rfl

theorem agree_ends {items items' : List Item} {buf buf' data : Bytes}
    {first first' : Item}
    (top : imapListFrom items buf data =
      imapListFrom (items' ++ [first]) buf' [])
    (nested : sublist items buf (data ++ [0x29]) =
      sublist (items' ++ [first']) buf' []) :
    Agree items buf data ↔ first = first' := by
  unfold Agree
  rw [top, nested, imapListFrom, sublist_nil]
  constructor
  · exact fun agree => withAtom_inj agree.1
  · rintro rfl
    exact ⟨rfl, rfl⟩

/-- The condition is exactly when they agree, from any state of the scan. -/
theorem agree_iff (items : List Item) (buf data : Bytes) :
    Agree items buf data ↔ readAlike (buf ≠ []) data = true := by
  induction length : data.length using Nat.strong_induction_on
    generalizing data items buf with
  | _ size ih =>
  cases data with
  | nil =>
      refine iff_of_true ⟨?_, ?_⟩ (by rw [readAlike])
      · rw [imapListFrom, List.nil_append, sublist_close]
      · rw [List.nil_append, sublist_close]
        rfl
  | cons byte rest =>
      rw [List.length_cons] at length
      rcases byte_cases byte with rfl | rfl | rfl | rfl | atom
      · rw [readAlike_close]
        unfold Agree
        rw [imapListFrom_close, List.cons_append, sublist_close,
          endsList_append]
        exact and_iff_right rfl
      · have inner := sublist_readTo [] [] rest
        rw [readAlike_open]
        cases ends : listEnd 0 rest with
        | closed behind =>
            rw [ends] at inner
            have shorter := listEnd_length ends
            refine (Agree.of_step ?_ ?_).trans (ih behind.length (by omega)
              (items ++ [.list (sublist [] [] rest).1]) buf behind rfl)
            · rw [imapListFrom_open, inner.1]
            · rw [List.cons_append, sublist_open, inner.2]
        | inList =>
            rw [ends] at inner
            have top : imapListFrom items buf (0x28 :: rest) = imapListFrom
                (items ++ [.list (sublist [] [] rest).1]) buf [] := by
              rw [imapListFrom_open, inner.1]
            have nested : sublist items buf (0x28 :: rest ++ [0x29]) =
                sublist (items ++ [.list (sublist [] [] rest).1]) buf [] := by
              rw [List.cons_append, sublist_open, inner.2]
            exact (agree_ends top nested).trans (iff_of_true rfl rfl)
        | inQuote =>
            rw [ends] at inner
            have top : imapListFrom items buf (0x28 :: rest) = imapListFrom
                (items ++ [.list (sublist [] [] rest).1]) buf [] := by
              rw [imapListFrom_open, inner.1]
            have nested : sublist items buf (0x28 :: rest ++ [0x29]) = sublist
                (items ++ [.list (sublist [] [] (rest ++ [0x29])).1]) buf
                  [] := by
              rw [List.cons_append, sublist_open, inner.2.1]
            refine (agree_ends top nested).trans
              (iff_of_false ?_ Bool.false_ne_true)
            exact fun same => inner.2.2 (Item.list.inj same).symm
      · rw [readAlike_space]
        refine (Agree.of_step (imapListFrom_space items buf rest) ?_).trans
          (ih _ (by omega) (withAtom items buf) [] rest rfl)
        exact sublist_space items buf _
      · rw [readAlike_quoted]
        cases closed : behindQuote rest with
        | some behind =>
            have shorter := behindQuote_length closed
            obtain ⟨left, longer⟩ := quotedFrom_of_closed closed [0x29]
            refine (Agree.of_step ?_ ?_).trans (ih behind.length (by omega)
              (withAtom items buf ++ [.bytes (quote (quotedFrom rest).1)]) []
              behind rfl)
            · rw [imapListFrom_quoted, left]
            · rw [List.cons_append, sublist_quoted, longer]
        | none =>
            obtain ⟨left, longer⟩ := quotedFrom_of_open closed
            have top : imapListFrom items buf (0x22 :: rest) = imapListFrom
                (withAtom items buf ++ [.bytes (quote (quotedFrom rest).1)])
                [] [] := by
              rw [imapListFrom_quoted, left]
            have nested : sublist items buf (0x22 :: rest ++ [0x29]) = sublist
                (withAtom items buf ++
                  [.bytes (quote ((quotedFrom rest).1 ++ [0x29]))]) [] [] := by
              rw [List.cons_append, sublist_quoted, longer]
            refine (agree_ends top nested).trans
              (iff_of_false ?_ Bool.false_ne_true)
            exact fun same =>
              quote_append_ne (quotedFrom rest).1 (Item.bytes.inj same).symm
      · by_cases brace : byte = 0x7b
        · subst brace
          rw [agree_brace, readAlike_brace]
          cases found : behindBraces rest with
          | none => simp
          | some behind =>
              have shorter := behindBraces_length found
              have later := ih behind.length (by omega)
                (items ++ [.bytes (literalFrom rest).1]) [] behind rfl
              rw [Bool.and_eq_true, Bool.not_eq_true', decide_eq_false_iff_not,
                not_not]
              refine and_congr_right fun _fresh => ?_
              constructor
              · rintro ⟨behind', same, agree⟩
                cases same
                exact later.mp agree
              · exact fun alike => ⟨behind, rfl, later.mpr alike⟩
        · rw [readAlike_atomByte atom brace]
          refine (Agree.of_step
            (imapListFrom_atomByte atom brace items buf rest)
            (sublist_atomByte atom items buf _)).trans ?_
          have later := ih _ (by omega) items (buf ++ [byte]) rest rfl
          have begun : buf ++ [byte] ≠ [] :=
            List.append_ne_nil_of_right_ne_nil buf (List.cons_ne_nil _ _)
          rwa [decide_eq_true begun] at later

theorem imapListFrom_past (items : List Item) (item : Item) (buf data : Bytes) :
    ∃ more, imapListFrom (items ++ [item]) buf data = items ++ more ∧
      more ≠ [] := by
  obtain ⟨more, grown, _more⟩ := imapListFrom_grows (items ++ [item]) buf data
  exact ⟨[item] ++ more, by rw [grown, List.append_assoc],
    List.cons_ne_nil _ _⟩

theorem imapListFrom_adds {byte : UInt8} (notClose : byte ≠ 0x29)
    (notSpace : byte ≠ 0x20) (items : List Item) (rest : Bytes) :
    ∃ more, imapListFrom items [] (byte :: rest) = items ++ more ∧
      more ≠ [] := by
  rcases byte_cases byte with rfl | rfl | rfl | rfl | atom
  · exact absurd rfl notClose
  · rw [imapListFrom_open]
    exact imapListFrom_past _ _ _ _
  · exact absurd rfl notSpace
  · rw [imapListFrom_quoted, withAtom_nil]
    exact imapListFrom_past _ _ _ _
  · by_cases brace : byte = 0x7b
    · subst brace
      rw [imapListFrom_literal, withAtom_nil]
      exact imapListFrom_past _ _ _ _
    · obtain ⟨more, grown, begun⟩ := imapListFrom_grows items [byte] rest
      rw [imapListFrom_atomByte atom brace]
      exact ⟨more, grown, begun (List.cons_ne_nil _ _)⟩

theorem imapListFrom_eq_self (items : List Item) (data : Bytes) :
    imapListFrom items [] data = items ↔ endsList data = true := by
  induction data with
  | nil =>
      rw [imapListFrom, withAtom_nil]
      exact iff_of_true rfl rfl
  | cons byte rest ih =>
      by_cases close : byte = 0x29
      · subst close
        rw [imapListFrom_close, withAtom_nil]
        exact iff_of_true rfl rfl
      by_cases space : byte = 0x20
      · subst space
        rw [imapListFrom_space, withAtom_nil, ih]
        rfl
      · obtain ⟨more, grown, some_⟩ := imapListFrom_adds close space items rest
        rw [grown]
        refine iff_of_false ?_ ?_
        · exact fun same => some_ (List.append_right_eq_self.mp same)
        · unfold endsList
          rw [List.dropWhile_cons_of_neg (by simpa using space)]
          simpa using close

/-- A text in parentheses reads as a list of what it reads as itself exactly
where both parsers read it alike. -/
theorem wrapped_iff (text : Bytes) :
    parseImapList (asciiBytes "(" ++ (asciiBytes "(" ++ text) ++
        asciiBytes ")") = [.list (parseImapList (asciiBytes "(" ++ text))] ↔
      readAlike false text = true := by
  have agree := agree_iff [] [] text
  have inner : parseImapList (asciiBytes "(" ++ text) =
      imapListFrom [] [] text := rfl
  have outer : parseImapList (asciiBytes "(" ++ (asciiBytes "(" ++ text) ++
      asciiBytes ")") = imapListFrom [.list (sublist [] [] (text ++ [0x29])).1]
        [] (sublist [] [] (text ++ [0x29])).2 := imapListFrom_open [] [] _
  have ends := imapListFrom_eq_self
    [.list (sublist [] [] (text ++ [0x29])).1]
    (sublist [] [] (text ++ [0x29])).2
  rw [inner, outer]
  refine Iff.trans ?_ agree
  constructor
  · intro same
    obtain ⟨more, grown, _more⟩ := imapListFrom_grows
      [.list (sublist [] [] (text ++ [0x29])).1] []
      (sublist [] [] (text ++ [0x29])).2
    have whole := grown.symm.trans same
    obtain ⟨itemsSame, none⟩ := List.cons.inj whole
    exact ⟨(Item.list.inj itemsSame).symm,
      ends.mp (by rw [same, itemsSame])⟩
  · intro both
    rw [ends.mpr both.2, both.1]

end DpktNg.Imap
