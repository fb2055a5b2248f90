/-
Writers that append one item after another and thread a state, and readers
that take the items back from the finished output.  What is written may refer
to earlier output, so an item is read inside the whole output, at the place
where it was written.
-/

import Mathlib

namespace DpktNg.Library

theorem bind_eq_ok {Error α β : Type} {first : Except Error α}
    {rest : α → Except Error β} {result : β} :
    (first >>= rest) = .ok result ↔
      ∃ value, first = .ok value ∧ rest value = .ok result := by
  cases first with
  | error problem =>
      constructor
      · intro impossible
        cases impossible
      · rintro ⟨value, impossible, _⟩
        cases impossible
  | ok value =>
      constructor
      · intro finished
        exact ⟨value, rfl, finished⟩
      · rintro ⟨value', same, finished⟩
        rw [Except.ok.injEq] at same
        rw [same]
        exact finished

@[simp] theorem ok_bind {Error α β : Type} (value : α)
    (rest : α → Except Error β) : (Except.ok value >>= rest) = rest value := rfl

section RaisesOnly

variable {Error α β : Type} {Allowed : Error → Prop}

/-- Whatever goes wrong is an allowed error. -/
def RaisesOnly (Allowed : Error → Prop) (result : Except Error α) : Prop :=
  ∀ problem, result = .error problem → Allowed problem

@[simp] theorem raisesOnly_ok (value : α) :
    RaisesOnly Allowed (.ok value : Except Error α) :=
  fun _problem impossible => by cases impossible

@[simp] theorem raisesOnly_error {problem : Error} :
    RaisesOnly Allowed (.error problem : Except Error α) ↔ Allowed problem := by
  constructor
  · intro allowed
    exact allowed problem rfl
  · intro allowed other same
    cases same
    exact allowed

theorem RaisesOnly.bind {first : Except Error α} {rest : α → Except Error β}
    (allowedFirst : RaisesOnly Allowed first)
    (allowedRest : ∀ value, first = .ok value →
      RaisesOnly Allowed (rest value)) :
    RaisesOnly Allowed (first >>= rest) := by
  cases result : first with
  | error problem =>
      intro other same
      cases same
      exact allowedFirst _ result
  | ok value => exact allowedRest value result

theorem RaisesOnly.mono {Allowed' : Error → Prop} {result : Except Error α}
    (allowed : RaisesOnly Allowed result)
    (weaker : ∀ problem, Allowed problem → Allowed' problem) :
    RaisesOnly Allowed' result :=
  fun problem raised => weaker problem (allowed problem raised)

/-- The computation fails with an error that is not allowed. -/
def Escapes (Allowed : Error → Prop) (result : Except Error α) : Prop :=
  ∃ problem, result = .error problem ∧ ¬Allowed problem

theorem not_escapes_iff {result : Except Error α} :
    ¬Escapes Allowed result ↔ RaisesOnly Allowed result := by
  constructor
  · intro fine problem raised
    by_contra refused
    exact fine ⟨problem, raised, refused⟩
  · rintro allowed ⟨problem, raised, refused⟩
    exact refused (allowed problem raised)

@[simp] theorem not_escapes_ok (value : α) :
    ¬Escapes Allowed (.ok value : Except Error α) :=
  not_escapes_iff.mpr (raisesOnly_ok value)

@[simp] theorem escapes_error {problem : Error} :
    Escapes Allowed (.error problem : Except Error α) ↔ ¬Allowed problem := by
  rw [← not_iff_not, not_escapes_iff, raisesOnly_error, not_not]

theorem not_escapes_error {problem : Error} (allowed : Allowed problem) :
    ¬Escapes Allowed (.error problem : Except Error α) :=
  not_escapes_iff.mpr (raisesOnly_error.mpr allowed)

/-- An error leaves a sequence of two computations from the first one, or from
the second one. -/
theorem escapes_bind {first : Except Error α} {rest : α → Except Error β} :
    Escapes Allowed (first >>= rest) ↔
      Escapes Allowed first ∨
        ∃ value, first = .ok value ∧ Escapes Allowed (rest value) := by
  cases first with
  | error problem =>
      constructor
      · rintro ⟨other, same, refused⟩
        cases same
        exact Or.inl ⟨problem, rfl, refused⟩
      · rintro (⟨other, same, refused⟩ | ⟨value, impossible, _⟩)
        · cases same
          exact ⟨problem, rfl, refused⟩
        · cases impossible
  | ok value =>
      constructor
      · intro escapes
        exact Or.inr ⟨value, rfl, escapes⟩
      · rintro (impossible | ⟨other, same, escapes⟩)
        · exact absurd impossible (not_escapes_ok value)
        · cases same
          exact escapes

theorem escapes_map {first : Except Error α} {wrap : α → β} :
    Escapes Allowed (first >>= fun value => .ok (wrap value)) ↔
      Escapes Allowed first := by
  rw [escapes_bind]
  apply or_iff_left
  rintro ⟨value, _returned, impossible⟩
  exact not_escapes_ok _ impossible

end RaisesOnly

section Refines

variable {Error α β : Type}

/-- Whatever the first computation returns, the second one returns as well. -/
def Refines (first second : Except Error α) : Prop :=
  ∀ value, first = .ok value → second = .ok value

namespace Refines

theorem refl (result : Except Error α) : Refines result result :=
  fun _value returned => returned

theorem bind {first second : Except Error α}
    {rest rest' : α → Except Error β} (front : Refines first second)
    (behind : ∀ value, Refines (rest value) (rest' value)) :
    Refines (first >>= rest) (second >>= rest') := by
  intro result returned
  obtain ⟨value, begun, finished⟩ := bind_eq_ok.mp returned
  rw [front value begun, ok_bind]
  exact behind value result finished

theorem ite {P : Prop} [Decidable P]
    {first first' second second' : Except Error α}
    (holds : Refines first first') (fails : Refines second second') :
    Refines (if P then first else second) (if P then first' else second') := by
  split
  · exact holds
  · exact fails

end Refines

end Refines

variable {Symbol State Item Item' Error : Type}

abbrev Writer (Symbol State Item Error : Type) :=
  List Symbol → State → Item → Except Error (List Symbol × State)

abbrev Reader (Symbol Item Error : Type) :=
  List Symbol → Nat → Except Error (Item × Nat)

/-- `for item in items: out = write(out, item)` -/
def writeAll (write : Writer Symbol State Item Error) (out : List Symbol)
    (state : State) : List Item → Except Error (List Symbol × State)
  | [] => .ok (out, state)
  | item :: rest => do
      let (out, state) ← write out state item
      writeAll write out state rest

/-- `for _ in range(count): item, off = read(out, off); items.append(item)` -/
def readMany (read : Reader Symbol Item Error) (out : List Symbol) :
    Nat → Nat → Except Error (List Item × Nat)
  | off, 0 => .ok ([], off)
  | off, count + 1 => do
      let (item, off) ← read out off
      let (items, off) ← readMany read out off count
      .ok (item :: items, off)

/-- Whatever follows it, the piece between `before` and `after` is read as an
item that satisfies `Same`. -/
def ReadAs (read : Reader Symbol Item Error) (Same : Item → Prop)
    (before after : List Symbol) : Prop :=
  before <+: after ∧
    ∀ full, after <+: full →
      ∃ item, read full before.length = .ok (item, after.length) ∧ Same item

/-- Where the invariant holds, a successful write of the item keeps it and can
be read back. -/
def ReadsBack (Inv : List Symbol → State → Prop)
    (write : Writer Symbol State Item Error)
    (read : Reader Symbol Item' Error) (Same : Item → Item' → Prop)
    (item : Item) : Prop :=
  ∀ out state out' state', Inv out state →
    write out state item = .ok (out', state') →
      Inv out' state' ∧ ReadAs read (Same item) out out'

variable {Inv : List Symbol → State → Prop}
  {write : Writer Symbol State Item Error}
  {read : Reader Symbol Item' Error} {Same : Item → Item' → Prop}

theorem writeAll_append (out : List Symbol) (state : State)
    (first second : List Item) :
    writeAll write out state (first ++ second) =
      writeAll write out state first >>= fun written =>
        writeAll write written.1 written.2 second := by
  induction first generalizing out state with
  | nil => rfl
  | cons item rest ih =>
      rw [List.cons_append, writeAll, writeAll, bind_assoc]
      cases write out state item with
      | error problem => rfl
      | ok written => exact ih written.1 written.2

theorem writeAll_refines {write' : Writer Symbol State Item Error}
    (each : ∀ out state item,
      Refines (write out state item) (write' out state item))
    (out : List Symbol) (state : State) (items : List Item) :
    Refines (writeAll write out state items)
      (writeAll write' out state items) := by
  induction items generalizing out state with
  | nil => exact .refl _
  | cons item rest ih =>
      exact .bind (each out state item) fun written => ih written.1 written.2

theorem readMany_add {out : List Symbol} {off middle stop m n : Nat}
    {first second : List Item'}
    (readFirst : readMany read out off m = .ok (first, middle))
    (readSecond : readMany read out middle n = .ok (second, stop)) :
    readMany read out off (m + n) = .ok (first ++ second, stop) := by
  induction m generalizing off first with
  | zero =>
      rw [readMany, Except.ok.injEq, Prod.mk.injEq] at readFirst
      rw [← readFirst.1, Nat.zero_add, readFirst.2]
      exact readSecond
  | succ m ih =>
      rw [readMany] at readFirst
      obtain ⟨⟨item, next⟩, readItem, readRest⟩ := bind_eq_ok.mp readFirst
      obtain ⟨⟨items, behind⟩, readItems, done⟩ := bind_eq_ok.mp readRest
      rw [Except.ok.injEq, Prod.mk.injEq] at done
      rw [done.2] at readItems
      simp only [Nat.succ_add, readMany, readItem, ok_bind, ih readItems,
        ← done.1, List.cons_append]

theorem readMany_length {out : List Symbol} {off count stop : Nat}
    {items : List Item'}
    (readItems : readMany read out off count = .ok (items, stop)) :
    items.length = count := by
  induction count generalizing off items stop with
  | zero =>
      rw [readMany, Except.ok.injEq, Prod.mk.injEq] at readItems
      rw [← readItems.1]
      rfl
  | succ count ih =>
      obtain ⟨⟨item, next⟩, _readItem, readRest⟩ := bind_eq_ok.mp readItems
      obtain ⟨⟨others, behind⟩, readOthers, done⟩ := bind_eq_ok.mp readRest
      rw [Except.ok.injEq, Prod.mk.injEq] at done
      rw [← done.1, List.length_cons, ih readOthers]

theorem readMany_forall {Good : Item' → Prop} {out : List Symbol}
    (each : ∀ off item next, read out off = .ok (item, next) → Good item)
    {off count stop : Nat} {items : List Item'}
    (readItems : readMany read out off count = .ok (items, stop)) :
    ∀ item ∈ items, Good item := by
  induction count generalizing off items with
  | zero =>
      rw [readMany, Except.ok.injEq, Prod.mk.injEq] at readItems
      rw [← readItems.1]
      exact fun item member => (List.not_mem_nil member).elim
  | succ count ih =>
      obtain ⟨⟨first, next⟩, readFirst, readRest⟩ := bind_eq_ok.mp readItems
      obtain ⟨⟨others, behind⟩, readOthers, done⟩ := bind_eq_ok.mp readRest
      rw [Except.ok.injEq, Prod.mk.injEq] at done
      rw [done.2] at readOthers
      rw [← done.1]
      intro item member
      cases member with
      | head => exact each off first next readFirst
      | tail _ among => exact ih readOthers item among

/-- A list of items reads back when each of them does at the output that is
reached before it. -/
theorem writeAll_readsBackFrom (items : List Item) {out out' : List Symbol}
    {state state' : State}
    (each : ∀ before item after, items = before ++ item :: after →
      ∀ out₁ state₁, writeAll write out state before = .ok (out₁, state₁) →
        Inv out₁ state₁ → ∀ out₂ state₂,
          write out₁ state₁ item = .ok (out₂, state₂) →
            Inv out₂ state₂ ∧ ReadAs read (Same item) out₁ out₂)
    (initially : Inv out state)
    (written : writeAll write out state items = .ok (out', state')) :
    Inv out' state' ∧
      ReadAs (fun full off => readMany read full off items.length)
        (List.Forall₂ Same items) out out' := by
  induction items generalizing out state with
  | nil =>
      rw [writeAll, Except.ok.injEq, Prod.mk.injEq] at written
      rw [← written.1, ← written.2]
      exact ⟨initially, List.prefix_rfl, fun full _within =>
        ⟨[], rfl, List.Forall₂.nil⟩⟩
  | cons item rest ih =>
      obtain ⟨⟨middle, between⟩, first, remaining⟩ := bind_eq_ok.mp written
      obtain ⟨invariant, begins, readFirst⟩ :=
        each [] item rest rfl out state rfl initially _ _ first
      have eachRest : ∀ before next after, rest = before ++ next :: after →
          ∀ out₁ state₁,
            writeAll write middle between before = .ok (out₁, state₁) →
              Inv out₁ state₁ → ∀ out₂ state₂,
                write out₁ state₁ next = .ok (out₂, state₂) →
                  Inv out₂ state₂ ∧ ReadAs read (Same next) out₁ out₂ := by
        intro before next after split out₁ state₁ reached
        apply each (item :: before) next after (by rw [split, List.cons_append])
        rw [writeAll, first, ok_bind]
        exact reached
      obtain ⟨final, continues, readRest⟩ := ih eachRest invariant remaining
      refine ⟨final, begins.trans continues, ?_⟩
      intro full within
      obtain ⟨got, readGot, same⟩ := readFirst full (continues.trans within)
      obtain ⟨others, readOthers, sameOthers⟩ := readRest full within
      have readOthers : readMany read full middle.length rest.length =
          .ok (others, out'.length) := readOthers
      refine ⟨got :: others, ?_, List.Forall₂.cons same sameOthers⟩
      simp only [List.length_cons, readMany, readGot, ok_bind, readOthers]

/-- A list of items that read back one by one reads back as a list. -/
theorem writeAll_readsBack (items : List Item)
    (each : ∀ item ∈ items, ReadsBack Inv write read Same item)
    {out out' : List Symbol} {state state' : State} (initially : Inv out state)
    (written : writeAll write out state items = .ok (out', state')) :
    Inv out' state' ∧
      ReadAs (fun full off => readMany read full off items.length)
        (List.Forall₂ Same items) out out' := by
  apply writeAll_readsBackFrom items _ initially written
  intro before item after split out₁ state₁ _reached invariant out₂ state₂
  have member : item ∈ items := by
    rw [split]
    exact List.mem_append_right _ List.mem_cons_self
  exact each item member out₁ state₁ out₂ state₂ invariant

theorem writeAll_begins {items : List Item} {out out' : List Symbol}
    {state state' : State}
    (grows : ∀ item ∈ items, ∀ out₁ state₁ out₂ state₂,
      write out₁ state₁ item = .ok (out₂, state₂) → out₁ <+: out₂)
    (written : writeAll write out state items = .ok (out', state')) :
    out <+: out' := by
  induction items generalizing out state with
  | nil =>
      rw [writeAll, Except.ok.injEq, Prod.mk.injEq] at written
      rw [written.1]
  | cons item rest ih =>
      obtain ⟨⟨middle, between⟩, first, remaining⟩ := bind_eq_ok.mp written
      have begins := grows item List.mem_cons_self _ _ _ _ first
      exact begins.trans (ih
        (fun other member => grows other (List.mem_cons_of_mem item member))
        remaining)

/-- If only good items are read back the same and where they were written, then
a list that is read back the same has only good items. -/
theorem writeAll_good {Good : Item → Prop} {items : List Item}
    {got : List Item'} {out out' full : List Symbol} {state state' : State}
    {stop : Nat}
    (each : ∀ item ∈ items, ∀ out₁ state₁ out₂ state₂ item' next,
      Inv out₁ state₁ → write out₁ state₁ item = .ok (out₂, state₂) →
        out₂ <+: full → read full out₁.length = .ok (item', next) →
          Same item item' →
            Good item ∧ Inv out₂ state₂ ∧ next = out₂.length)
    (grows : ∀ item ∈ items, ∀ out₁ state₁ out₂ state₂,
      write out₁ state₁ item = .ok (out₂, state₂) → out₁ <+: out₂)
    (initially : Inv out state)
    (written : writeAll write out state items = .ok (out', state'))
    (within : out' <+: full)
    (readBack : readMany read full out.length items.length = .ok (got, stop))
    (same : List.Forall₂ Same items got) :
    (∀ item ∈ items, Good item) ∧ Inv out' state' ∧ stop = out'.length := by
  induction items generalizing out state got with
  | nil =>
      rw [writeAll, Except.ok.injEq, Prod.mk.injEq] at written
      rw [List.length_nil, readMany, Except.ok.injEq, Prod.mk.injEq] at readBack
      rw [← written.1, ← written.2, ← readBack.2]
      exact ⟨fun item member => (List.not_mem_nil member).elim, initially, rfl⟩
  | cons item rest ih =>
      obtain ⟨⟨middle, between⟩, first, remaining⟩ := bind_eq_ok.mp written
      rw [List.length_cons, readMany] at readBack
      obtain ⟨⟨item', next⟩, readItem, readRest⟩ := bind_eq_ok.mp readBack
      obtain ⟨⟨others, behind⟩, readOthers, done⟩ := bind_eq_ok.mp readRest
      rw [Except.ok.injEq, Prod.mk.injEq] at done
      rw [← done.1, List.forall₂_cons] at same
      have growsRest : ∀ other ∈ rest, ∀ out₁ state₁ out₂ state₂,
          write out₁ state₁ other = .ok (out₂, state₂) → out₁ <+: out₂ :=
        fun other member => grows other (List.mem_cons_of_mem item member)
      have continues : middle <+: out' := writeAll_begins growsRest remaining
      obtain ⟨good, invariant, position⟩ := each item List.mem_cons_self _ _ _ _
        item' next initially first (continues.trans within) readItem same.1
      have readOthers : readMany read full middle.length rest.length =
          .ok (others, stop) := by
        rw [← position, ← done.2]
        exact readOthers
      obtain ⟨goodRest, final, stops⟩ := ih
        (fun other member => each other (List.mem_cons_of_mem item member))
        growsRest invariant remaining readOthers same.2
      refine ⟨?_, final, stops⟩
      intro other member
      cases member with
      | head => exact good
      | tail _ among => exact goodRest other among

theorem writeAll_succeeds {items : List Item}
    (each : ∀ item ∈ items, ∀ out₁ state₁, Inv out₁ state₁ →
      ∃ out₂ state₂, write out₁ state₁ item = .ok (out₂, state₂) ∧
        Inv out₂ state₂)
    {out : List Symbol} {state : State} (initially : Inv out state) :
    ∃ out' state', writeAll write out state items = .ok (out', state') ∧
      Inv out' state' := by
  induction items generalizing out state with
  | nil => exact ⟨out, state, rfl, initially⟩
  | cons item rest ih =>
      obtain ⟨middle, between, first, invariant⟩ :=
        each item List.mem_cons_self out state initially
      obtain ⟨out', state', remaining, final⟩ := ih
        (fun other member => each other (List.mem_cons_of_mem item member))
        invariant
      refine ⟨out', state', ?_, final⟩
      rw [writeAll, first, ok_bind]
      exact remaining

theorem writeAll_forall {Good : Item → Prop} {items : List Item}
    (each : ∀ item ∈ items, ∀ out₁ state₁ result,
      write out₁ state₁ item = .ok result → Good item)
    {out out' : List Symbol} {state state' : State}
    (written : writeAll write out state items = .ok (out', state')) :
    ∀ item ∈ items, Good item := by
  induction items generalizing out state with
  | nil =>
      intro item member
      cases member
  | cons item rest ih =>
      obtain ⟨⟨middle, between⟩, first, remaining⟩ := bind_eq_ok.mp written
      intro other member
      cases member with
      | head => exact each item List.mem_cons_self out state _ first
      | tail _ among =>
          exact ih
            (fun another inside =>
              each another (List.mem_cons_of_mem item inside))
            remaining other among

end DpktNg.Library
