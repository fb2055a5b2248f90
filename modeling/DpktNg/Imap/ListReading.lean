/-
How the two list parsers of IMAP read one text: `_parse_imap_list` at the top,
and `_parse_imap_sublist`, which knows no literals, inside.
-/

import DpktNg.Imap.Response

namespace DpktNg.Imap

open Library

/-! ### The two parsers, byte by byte -/

/-- Items and rest of `_parse_imap_sublist`, without the bound on the rest. -/
def sublist (items : List Item) (buf data : Bytes) : List Item × Bytes :=
  ((parseImapSublist items buf data).1, (parseImapSublist items buf data).2.1)

section Sublist

variable (items : List Item) (buf rest : Bytes)

theorem sublist_nil : sublist items buf [] = (withAtom items buf, []) := by
  unfold sublist
  rw [parseImapSublist]

theorem sublist_close :
    sublist items buf (0x29 :: rest) = (withAtom items buf, rest) := by
  unfold sublist
  rw [parseImapSublist, if_pos rfl]

theorem sublist_open :
    sublist items buf (0x28 :: rest) =
      sublist (items ++ [.list (sublist [] [] rest).1]) buf
        (sublist [] [] rest).2 := by
  unfold sublist
  rw [parseImapSublist, if_neg (by decide), if_pos rfl]

theorem sublist_space :
    sublist items buf (0x20 :: rest) =
      sublist (withAtom items buf) [] rest := by
  unfold sublist
  rw [parseImapSublist, if_neg (by decide), if_neg (by decide), if_pos rfl]

theorem sublist_quoted :
    sublist items buf (0x22 :: rest) =
      sublist (withAtom items buf ++ [.bytes (quote (quotedFrom rest).1)]) []
        (quotedFrom rest).2 := by
  unfold sublist
  rw [parseImapSublist, if_neg (by decide), if_neg (by decide),
    if_neg (by decide), if_pos rfl]

end Sublist

/-- A byte that `_parse_imap_sublist` takes for part of an atom. -/
def isAtomByte (byte : UInt8) : Bool :=
  byte ≠ 0x28 ∧ byte ≠ 0x29 ∧ byte ≠ 0x20 ∧ byte ≠ 0x22

theorem sublist_atomByte {byte : UInt8} (atom : isAtomByte byte = true)
    (items : List Item) (buf rest : Bytes) :
    sublist items buf (byte :: rest) = sublist items (buf ++ [byte]) rest := by
  obtain ⟨notOpen, notClose, notSpace, notQuote⟩ := of_decide_eq_true atom
  unfold sublist
  rw [parseImapSublist, if_neg notClose, if_neg notOpen, if_neg notSpace,
    if_neg notQuote]

section ListFrom

variable (items : List Item) (buf rest : Bytes)

theorem imapListFrom_close :
    imapListFrom items buf (0x29 :: rest) = withAtom items buf := by
  rw [imapListFrom, if_pos rfl]

theorem imapListFrom_open :
    imapListFrom items buf (0x28 :: rest) =
      imapListFrom (items ++ [.list (sublist [] [] rest).1]) buf
        (sublist [] [] rest).2 := by
  rw [imapListFrom, if_neg (by decide), if_pos rfl]
  rfl

theorem imapListFrom_space :
    imapListFrom items buf (0x20 :: rest) =
      imapListFrom (withAtom items buf) [] rest := by
  rw [imapListFrom, if_neg (by decide), if_neg (by decide), if_pos rfl]

theorem imapListFrom_quoted :
    imapListFrom items buf (0x22 :: rest) =
      imapListFrom (withAtom items buf ++ [.bytes (quote (quotedFrom rest).1)])
        [] (quotedFrom rest).2 := by
  rw [imapListFrom, if_neg (by decide), if_neg (by decide),
    if_neg (by decide), if_pos rfl]

theorem imapListFrom_literal :
    imapListFrom items buf (0x7b :: rest) =
      imapListFrom (withAtom items buf ++ [.bytes (literalFrom rest).1]) []
        (literalFrom rest).2 := by
  rw [imapListFrom, if_neg (by decide), if_neg (by decide),
    if_neg (by decide), if_neg (by decide), if_pos rfl]

end ListFrom

theorem imapListFrom_atomByte {byte : UInt8} (atom : isAtomByte byte = true)
    (other : byte ≠ 0x7b) (items : List Item) (buf rest : Bytes) :
    imapListFrom items buf (byte :: rest) =
      imapListFrom items (buf ++ [byte]) rest := by
  obtain ⟨notOpen, notClose, notSpace, notQuote⟩ := of_decide_eq_true atom
  rw [imapListFrom, if_neg notClose, if_neg notOpen, if_neg notSpace,
    if_neg notQuote, if_neg other]

theorem byte_cases (byte : UInt8) :
    byte = 0x29 ∨ byte = 0x28 ∨ byte = 0x20 ∨ byte = 0x22 ∨
      isAtomByte byte = true := by
  unfold isAtomByte
  by_cases close : byte = 0x29
  · exact Or.inl close
  by_cases opens : byte = 0x28
  · exact Or.inr (Or.inl opens)
  by_cases space : byte = 0x20
  · exact Or.inr (Or.inr (Or.inl space))
  by_cases quoted : byte = 0x22
  · exact Or.inr (Or.inr (Or.inr (Or.inl quoted)))
  · exact Or.inr (Or.inr (Or.inr (Or.inr
      (decide_eq_true ⟨opens, close, space, quoted⟩))))

@[simp] theorem withAtom_nil (items : List Item) : withAtom items [] = items :=
  if_pos rfl

theorem withAtom_present {buf : Bytes} (present : buf ≠ [])
    (items : List Item) :
    withAtom items buf = items ++ [.bytes buf] := if_neg present

theorem withAtom_inj {items : List Item} {first first' : Item} {buf : Bytes}
    (same : withAtom (items ++ [first']) buf =
      withAtom (items ++ [first]) buf) :
    first' = first := by
  unfold withAtom at same
  split at same
  · exact List.singleton_inj.mp (List.append_cancel_left same)
  · have fronts := List.append_cancel_right same
    exact List.singleton_inj.mp (List.append_cancel_left fronts)

theorem withAtom_grows (items : List Item) (buf : Bytes) :
    ∃ more, withAtom items buf = items ++ more ∧ (buf ≠ [] → more ≠ []) := by
  by_cases empty : buf = []
  · exact ⟨[], by rw [empty, withAtom_nil, List.append_nil],
      fun present => absurd empty present⟩
  · exact ⟨[.bytes buf], withAtom_present empty items,
      fun _present => List.cons_ne_nil _ _⟩

theorem sublist_left_length (items : List Item) (buf data : Bytes) :
    (sublist items buf data).2.length ≤ data.length :=
  (parseImapSublist items buf data).2.2

/-! ### Items are only added -/

theorem sublist_grows (items : List Item) (buf data : Bytes) :
    ∃ more, (sublist items buf data).1 = items ++ more := by
  induction length : data.length using Nat.strong_induction_on
    generalizing items buf data with
  | _ size ih =>
  cases data with
  | nil =>
      obtain ⟨more, grown, _present⟩ := withAtom_grows items buf
      exact ⟨more, by rw [sublist_nil, grown]⟩
  | cons byte rest =>
      rw [List.length_cons] at length
      obtain ⟨atom, grown, _present⟩ := withAtom_grows items buf
      rcases byte_cases byte with rfl | rfl | rfl | rfl | isAtom
      · exact ⟨atom, by rw [sublist_close, grown]⟩
      · have shorter := sublist_left_length [] [] rest
        obtain ⟨more, later⟩ := ih _ (by omega)
          (items ++ [.list (sublist [] [] rest).1]) buf
          (sublist [] [] rest).2 rfl
        exact ⟨_, by rw [sublist_open, later, List.append_assoc]⟩
      · obtain ⟨more, later⟩ := ih _ (by omega) (withAtom items buf) [] rest rfl
        exact ⟨_, by rw [sublist_space, later, grown, List.append_assoc]⟩
      · have shorter := quotedFrom_length rest
        obtain ⟨more, later⟩ := ih _ (by omega)
          (withAtom items buf ++ [.bytes (quote (quotedFrom rest).1)]) []
          (quotedFrom rest).2 rfl
        exact ⟨_, by rw [sublist_quoted, later, grown, List.append_assoc,
          List.append_assoc]⟩
      · obtain ⟨more, later⟩ := ih _ (by omega) items (buf ++ [byte]) rest rfl
        exact ⟨more, by rw [sublist_atomByte isAtom, later]⟩

theorem imapListFrom_grows (items : List Item) (buf data : Bytes) :
    ∃ more, imapListFrom items buf data = items ++ more ∧
      (buf ≠ [] → more ≠ []) := by
  induction length : data.length using Nat.strong_induction_on
    generalizing items buf data with
  | _ size ih =>
  obtain ⟨atom, grown, present⟩ := withAtom_grows items buf
  cases data with
  | nil => exact ⟨atom, by rw [imapListFrom, grown], present⟩
  | cons byte rest =>
      rw [List.length_cons] at length
      rcases byte_cases byte with rfl | rfl | rfl | rfl | isAtom
      · exact ⟨atom, by rw [imapListFrom_close, grown], present⟩
      · have shorter := sublist_left_length [] [] rest
        obtain ⟨more, later, _more⟩ := ih _ (by omega)
          (items ++ [.list (sublist [] [] rest).1]) buf
          (sublist [] [] rest).2 rfl
        refine ⟨_, by rw [imapListFrom_open, later, List.append_assoc],
          fun _begun => ?_⟩
        exact List.append_ne_nil_of_left_ne_nil (List.cons_ne_nil _ _) _
      · obtain ⟨more, later, _more⟩ :=
          ih _ (by omega) (withAtom items buf) [] rest rfl
        refine ⟨_, by rw [imapListFrom_space, later, grown, List.append_assoc],
          fun begun => ?_⟩
        exact List.append_ne_nil_of_left_ne_nil (present begun) _
      · have shorter := quotedFrom_length rest
        obtain ⟨more, later, _more⟩ := ih _ (by omega)
          (withAtom items buf ++ [.bytes (quote (quotedFrom rest).1)]) []
          (quotedFrom rest).2 rfl
        refine ⟨_, by rw [imapListFrom_quoted, later, grown, List.append_assoc,
          List.append_assoc], fun begun => ?_⟩
        exact List.append_ne_nil_of_left_ne_nil (present begun) _
      · by_cases brace : byte = 0x7b
        · subst brace
          have shorter := literalFrom_length rest
          obtain ⟨more, later, _more⟩ := ih _ (by omega)
            (withAtom items buf ++ [.bytes (literalFrom rest).1]) []
            (literalFrom rest).2 rfl
          refine ⟨_, by rw [imapListFrom_literal, later, grown,
            List.append_assoc, List.append_assoc], fun begun => ?_⟩
          exact List.append_ne_nil_of_left_ne_nil (present begun) _
        · obtain ⟨more, later, positive⟩ :=
            ih _ (by omega) items (buf ++ [byte]) rest rfl
          exact ⟨more, by rw [imapListFrom_atomByte isAtom brace, later],
            fun _begun => positive (by simp)⟩

/-! ### Where quoted strings and lists end -/

def behindQuote : Bytes → Option Bytes
  | [] => none
  | [byte] => if byte = 0x22 then some [] else none
  | byte :: next :: rest =>
      if byte = 0x22 then some (next :: rest)
      else if byte = 0x5c then behindQuote rest
      else behindQuote (next :: rest)

theorem behindQuote_length {data behind : Bytes}
    (closed : behindQuote data = some behind) :
    behind.length < data.length := by
  fun_induction behindQuote data with
  | case1 => cases closed
  | case2 =>
      cases closed
      exact Nat.zero_lt_one
  | case3 byte other => cases closed
  | case4 next rest =>
      cases closed
      exact Nat.lt_succ_self _
  | case5 next rest _ ih =>
      have shorter := ih closed
      rw [List.length_cons, List.length_cons]
      omega
  | case6 byte next rest _ _ ih =>
      have shorter := ih closed
      rw [List.length_cons]
      omega

/-- How the bytes behind an opening parenthesis go on. -/
inductive ListEnd where
  | closed (behind : Bytes)
  | inList
  | inQuote

/-- What is behind a closed list, read on. -/
def ListEnd.andThen : ListEnd → (Bytes → ListEnd) → ListEnd
  | .closed behind, onward => onward behind
  | .inList, _ => .inList
  | .inQuote, _ => .inQuote

/-- Where a list ends for one that counts parentheses, skips quoted strings and
knows no literals. -/
def listEnd (depth : Nat) (data : Bytes) : ListEnd :=
  match data with
  | [] => .inList
  | byte :: rest =>
      if byte = 0x29 then
        if depth = 0 then .closed rest else listEnd (depth - 1) rest
      else if byte = 0x28 then listEnd (depth + 1) rest
      else if byte = 0x22 then
        match _closed : behindQuote rest with
        | some behind => listEnd depth behind
        | none => .inQuote
      else listEnd depth rest
termination_by data.length
decreasing_by
  · exact Nat.lt_succ_self _
  · exact Nat.lt_succ_self _
  · exact Nat.lt_succ_of_lt (behindQuote_length _closed)
  · exact Nat.lt_succ_self _

theorem listEnd_length {depth : Nat} {data behind : Bytes}
    (ends : listEnd depth data = .closed behind) :
    behind.length < data.length := by
  fun_induction listEnd depth data with
  | case1 => cases ends
  | case2 rest =>
      cases ends
      exact Nat.lt_succ_self _
  | case3 depth rest _ ih => exact Nat.lt_succ_of_lt (ih ends)
  | case4 depth rest _ ih => exact Nat.lt_succ_of_lt (ih ends)
  | case5 depth rest behind' closed _ _ ih =>
      have shorter := behindQuote_length closed
      have further := ih ends
      rw [List.length_cons]
      omega
  | case6 => cases ends
  | case7 depth byte rest _ _ _ ih => exact Nat.lt_succ_of_lt (ih ends)

/-! ### Quoted strings and lists, with more behind -/

theorem quotedFrom_close (rest : Bytes) :
    quotedFrom (0x22 :: rest) = ([], rest) := by
  cases rest <;> rfl

theorem quotedFrom_plain {byte : UInt8} (notQuote : byte ≠ 0x22)
    (notEscape : byte ≠ 0x5c) (rest : Bytes) :
    quotedFrom (byte :: rest) =
      (byte :: (quotedFrom rest).1, (quotedFrom rest).2) := by
  cases rest with
  | nil => exact if_neg (not_or_intro notQuote notEscape)
  | cons next rest => rw [quotedFrom, if_neg notQuote, if_neg notEscape]

theorem quotedFrom_of_closed {data behind : Bytes}
    (closed : behindQuote data = some behind) (more : Bytes) :
    (quotedFrom data).2 = behind ∧
      quotedFrom (data ++ more) = ((quotedFrom data).1, behind ++ more) := by
  fun_induction behindQuote data with
  | case1 => cases closed
  | case2 =>
      cases closed
      exact ⟨rfl, quotedFrom_close more⟩
  | case3 byte other => cases closed
  | case4 next rest =>
      cases closed
      exact ⟨rfl, rfl⟩
  | case5 next rest _ ih =>
      obtain ⟨left, same⟩ := ih closed
      refine ⟨left, ?_⟩
      change ((next :: (quotedFrom (rest ++ more)).1 : Bytes),
        (quotedFrom (rest ++ more)).2) = _
      rw [same]
      rfl
  | case6 byte next rest notQuote notEscape ih =>
      obtain ⟨left, same⟩ := ih closed
      rw [List.cons_append, quotedFrom_plain notQuote notEscape,
        quotedFrom_plain notQuote notEscape, same]
      exact ⟨left, rfl⟩

/-- A string that is never closed takes all that comes. -/
theorem quotedFrom_of_open {data : Bytes} (unclosed : behindQuote data = none) :
    (quotedFrom data).2 = [] ∧
      quotedFrom (data ++ [0x29]) = ((quotedFrom data).1 ++ [0x29], []) := by
  fun_induction behindQuote data with
  | case1 => exact ⟨rfl, rfl⟩
  | case2 => cases unclosed
  | case3 byte notQuote =>
      by_cases escape : byte = 0x5c
      · subst escape
        exact ⟨rfl, rfl⟩
      · rw [List.singleton_append, quotedFrom_plain notQuote escape,
          quotedFrom_plain notQuote escape]
        exact ⟨rfl, rfl⟩
  | case4 next rest => cases unclosed
  | case5 next rest _ ih =>
      obtain ⟨left, same⟩ := ih unclosed
      refine ⟨left, ?_⟩
      change ((next :: (quotedFrom (rest ++ [0x29])).1 : Bytes),
        (quotedFrom (rest ++ [0x29])).2) = _
      rw [same]
      rfl
  | case6 byte next rest notQuote notEscape ih =>
      obtain ⟨left, same⟩ := ih unclosed
      rw [List.cons_append, quotedFrom_plain notQuote notEscape,
        quotedFrom_plain notQuote notEscape, same]
      exact ⟨left, rfl⟩

theorem quote_append_ne (value : Bytes) :
    quote (value ++ [0x29]) ≠ quote value := by
  intro same
  have lengths := congrArg List.length same
  unfold quote at lengths
  simp at lengths

theorem listEnd_close (depth : Nat) (rest : Bytes) :
    listEnd (depth + 1) (0x29 :: rest) = listEnd depth rest := by
  rw [listEnd, if_pos rfl, if_neg (Nat.succ_ne_zero depth),
    Nat.add_sub_cancel]

theorem listEnd_open (depth : Nat) (rest : Bytes) :
    listEnd depth (0x28 :: rest) = listEnd (depth + 1) rest := by
  rw [listEnd, if_neg (by decide), if_pos rfl]

theorem listEnd_quoted (depth : Nat) (rest : Bytes) :
    listEnd depth (0x22 :: rest) =
      match behindQuote rest with
      | some behind => listEnd depth behind
      | none => .inQuote := by
  rw [listEnd, if_neg (by decide), if_neg (by decide), if_pos rfl]
  split <;> simp_all

theorem listEnd_other {byte : UInt8}
    (other : byte = 0x20 ∨ isAtomByte byte = true) (depth : Nat)
    (rest : Bytes) :
    listEnd depth (byte :: rest) = listEnd depth rest := by
  have counts : byte ≠ 0x29 ∧ byte ≠ 0x28 ∧ byte ≠ 0x22 := by
    rcases other with rfl | atom
    · decide
    · obtain ⟨notOpen, notClose, _notSpace, notQuote⟩ := of_decide_eq_true atom
      exact ⟨notClose, notOpen, notQuote⟩
  rw [listEnd, if_neg counts.1, if_neg counts.2.1, if_neg counts.2.2]

theorem listEnd_succ (depth : Nat) (data : Bytes) :
    listEnd (depth + 1) data = (listEnd 0 data).andThen (listEnd depth) := by
  induction length : data.length using Nat.strong_induction_on
    generalizing depth data with
  | _ size ih =>
  cases data with
  | nil => rw [listEnd, listEnd, ListEnd.andThen]
  | cons byte rest =>
      rw [List.length_cons] at length
      rcases byte_cases byte with rfl | rfl | other | rfl | atom
      · rw [listEnd_close, listEnd, if_pos rfl, if_pos rfl, ListEnd.andThen]
      · -- the inner list ends first on both sides
        rw [listEnd_open, listEnd_open, ih _ (by omega) (depth + 1) rest rfl,
          ih _ (by omega) 0 rest rfl]
        cases ends : listEnd 0 rest with
        | closed behind =>
            have shorter := listEnd_length ends
            exact ih _ (by omega) depth behind rfl
        | inList => rfl
        | inQuote => rfl
      · rw [listEnd_other (Or.inl other), listEnd_other (Or.inl other)]
        exact ih _ (by omega) depth rest rfl
      · rw [listEnd_quoted, listEnd_quoted]
        cases closed : behindQuote rest with
        | some behind =>
            have shorter := behindQuote_length closed
            exact ih _ (by omega) depth behind rfl
        | none => rfl
      · rw [listEnd_other (Or.inr atom), listEnd_other (Or.inr atom)]
        exact ih _ (by omega) depth rest rfl

/-- What `_parse_imap_sublist` reads, and what it reads of a text that has one
more closing parenthesis. -/
def ReadTo (items : List Item) (buf data : Bytes) : ListEnd → Prop
  | .closed behind => (sublist items buf data).2 = behind ∧
      ∀ more, sublist items buf (data ++ more) =
        ((sublist items buf data).1, behind ++ more)
  | .inList => (sublist items buf data).2 = [] ∧
      sublist items buf (data ++ [0x29]) = ((sublist items buf data).1, [])
  | .inQuote => (sublist items buf data).2 = [] ∧
      (sublist items buf (data ++ [0x29])).2 = [] ∧
      (sublist items buf (data ++ [0x29])).1 ≠ (sublist items buf data).1

theorem ReadTo.of_step {items items' : List Item} {buf buf' data data' : Bytes}
    {ends : ListEnd} (read : ReadTo items' buf' data' ends)
    (step : ∀ more, sublist items buf (data ++ more) =
      sublist items' buf' (data' ++ more)) : ReadTo items buf data ends := by
  have here := step []
  rw [List.append_nil, List.append_nil] at here
  cases ends with
  | closed behind => simpa only [ReadTo, here, step] using read
  | inList => simpa only [ReadTo, here, step] using read
  | inQuote => simpa only [ReadTo, here, step] using read

/-- Nothing is left, and other items come out. -/
theorem readTo_inQuote {items : List Item} {buf data : Bytes}
    (items' : List Item) (buf' : Bytes) {first first' : Item}
    (different : first' ≠ first)
    (short : sublist items buf data = sublist (items' ++ [first]) buf' [])
    (long : sublist items buf (data ++ [0x29]) =
      sublist (items' ++ [first']) buf' []) :
    ReadTo items buf data .inQuote := by
  rw [sublist_nil] at short long
  refine ⟨by rw [short], by rw [long], ?_⟩
  rw [short, long]
  exact fun same => different (withAtom_inj same)

theorem sublist_readTo (items : List Item) (buf data : Bytes) :
    ReadTo items buf data (listEnd 0 data) := by
  induction length : data.length using Nat.strong_induction_on
    generalizing data items buf with
  | _ size ih =>
  cases data with
  | nil =>
      rw [listEnd]
      refine ⟨?_, ?_⟩
      · rw [sublist_nil]
      · rw [List.nil_append, sublist_close, sublist_nil]
  | cons byte rest =>
      rw [List.length_cons] at length
      rcases byte_cases byte with rfl | rfl | rfl | rfl | atom
      · rw [listEnd, if_pos rfl, if_pos rfl]
        refine ⟨?_, fun more => ?_⟩
        · rw [sublist_close]
        · rw [List.cons_append, sublist_close, sublist_close]
      · have first := ih _ (by omega) [] [] rest rfl
        rw [listEnd_open, listEnd_succ]
        cases inner : listEnd 0 rest with
        | closed between =>
            rw [inner] at first
            have shorter := listEnd_length inner
            have later := ih between.length (by omega)
              (items ++ [.list (sublist [] [] rest).1]) buf between rfl
            refine later.of_step fun more => ?_
            rw [List.cons_append, sublist_open, first.2 more]
        | inList =>
            rw [inner] at first
            refine ⟨?_, ?_⟩
            · rw [sublist_open, first.1, sublist_nil]
            · rw [List.cons_append, sublist_open, sublist_open, first.1,
                first.2]
              rw [sublist_nil]
        | inQuote =>
            rw [inner] at first
            refine readTo_inQuote items buf
              (fun same => first.2.2 (Item.list.inj same)) ?_ ?_
            · rw [sublist_open, first.1]
            · rw [List.cons_append, sublist_open, first.2.1]
      · rw [listEnd_other (Or.inl rfl)]
        refine (ih _ (by omega) (withAtom items buf) [] rest rfl).of_step ?_
        exact fun more => sublist_space items buf (rest ++ more)
      · rw [listEnd_quoted]
        cases closed : behindQuote rest with
        | some between =>
            have shorter := behindQuote_length closed
            have later := ih between.length (by omega)
              (withAtom items buf ++ [.bytes (quote (quotedFrom rest).1)]) []
              between rfl
            refine later.of_step fun more => ?_
            rw [List.cons_append, sublist_quoted,
              (quotedFrom_of_closed closed more).2]
        | none =>
            obtain ⟨left, longer⟩ := quotedFrom_of_open closed
            refine readTo_inQuote (withAtom items buf) []
              (fun same => quote_append_ne (quotedFrom rest).1
                (Item.bytes.inj same)) ?_ ?_
            · rw [sublist_quoted, left]
            · rw [List.cons_append, sublist_quoted, longer]
      · rw [listEnd_other (Or.inr atom)]
        refine (ih _ (by omega) items (buf ++ [byte]) rest rfl).of_step ?_
        exact fun more => sublist_atomByte atom items buf (rest ++ more)

/-! ### Atoms that are read on -/

theorem sublist_run (items : List Item) (buf : Bytes) {run : Bytes}
    (atoms : run.all isAtomByte = true) (rest : Bytes) :
    sublist items buf (run ++ rest) = sublist items (buf ++ run) rest := by
  induction run generalizing buf with
  | nil => rw [List.nil_append, List.append_nil]
  | cons byte run ih =>
      rw [List.all_cons, Bool.and_eq_true] at atoms
      rw [List.cons_append, sublist_atomByte atoms.1, ih _ atoms.2,
        List.append_assoc]
      rfl

def endsAtom (byte : UInt8) : Bool :=
  byte = 0x20 ∨ byte = 0x29 ∨ byte = 0x22

theorem byte_kinds (byte : UInt8) :
    byte = 0x28 ∨
      endsAtom byte = true ∧ ¬isAtomByte byte = true ∧ byte ≠ 0x28 ∨
      isAtomByte byte = true := by
  rcases byte_cases byte with rfl | rfl | rfl | rfl | atom
  · exact Or.inr (Or.inl (by decide))
  · exact Or.inl rfl
  · exact Or.inr (Or.inl (by decide))
  · exact Or.inr (Or.inl (by decide))
  · exact Or.inr (Or.inr atom)

theorem sublist_endsAtom {byte : UInt8} (ends : endsAtom byte = true)
    (items : List Item) (buf rest : Bytes) :
    sublist items buf (byte :: rest) =
      sublist (withAtom items buf) [] (byte :: rest) := by
  rcases of_decide_eq_true ends with rfl | rfl | rfl
  · rw [sublist_space, sublist_space, withAtom_nil]
  · rw [sublist_close, sublist_close, withAtom_nil]
  · rw [sublist_quoted, sublist_quoted, withAtom_nil]

/-- The first item behind those of before, where an atom has begun: a list that
stands right behind the atom comes before it. -/
theorem sublist_first (items : List Item) {buf : Bytes} (begun : buf ≠ [])
    (data : Bytes) :
    ∃ first more,
      (sublist items buf (data ++ [0x29])).1 = items ++ first :: more ∧
        ((∃ inner, first = .list inner) ∨
          first = .bytes (buf ++ data.takeWhile isAtomByte) ∧
            (data.dropWhile isAtomByte).head? ≠ some 0x28) := by
  induction data generalizing buf with
  | nil =>
      refine ⟨.bytes buf, [], ?_, Or.inr ⟨?_, nofun⟩⟩
      · rw [List.nil_append, sublist_close, withAtom_present begun]
      · rw [List.takeWhile_nil, List.append_nil]
  | cons byte rest ih =>
      rw [List.cons_append]
      rcases byte_kinds byte with rfl | ⟨ends, other⟩ | atom
      · obtain ⟨more, later⟩ := sublist_grows
          (items ++ [.list (sublist [] [] (rest ++ [0x29])).1]) buf
          (sublist [] [] (rest ++ [0x29])).2
        refine ⟨.list (sublist [] [] (rest ++ [0x29])).1, more, ?_,
          Or.inl ⟨_, rfl⟩⟩
        rw [sublist_open, later, List.append_assoc]
        rfl
      · obtain ⟨more, later⟩ :=
          sublist_grows (withAtom items buf) [] (byte :: (rest ++ [0x29]))
        refine ⟨.bytes buf, more, ?_, Or.inr ⟨?_, ?_⟩⟩
        · rw [sublist_endsAtom ends, later, withAtom_present begun,
            List.append_assoc]
          rfl
        · rw [List.takeWhile_cons_of_neg other.1, List.append_nil]
        · rw [List.dropWhile_cons_of_neg other.1]
          exact fun same => other.2 (Option.some.inj same)
      · obtain ⟨first, more, found, shape⟩ :=
          ih (List.append_ne_nil_of_right_ne_nil buf (List.cons_ne_nil byte []))
        refine ⟨first, more, ?_, ?_⟩
        · rw [sublist_atomByte atom, found]
        · rw [List.takeWhile_cons_of_pos atom, List.dropWhile_cons_of_pos atom]
          rw [List.append_assoc] at shape
          exact shape

end DpktNg.Imap
