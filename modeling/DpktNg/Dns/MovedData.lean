/-
Data of a record that is written again as it stands, at another offset.  The
labels in it move with it, the pointers in it lead where they led before.
-/

import DpktNg.Dns.Regenerating

namespace DpktNg.Dns

open Library

section Placed

variable {front data full : Bytes}

theorem cut_placed (within : front ++ data <+: full) {start stop : Nat}
    (inside : stop ≤ data.length) :
    cut full (front.length + start) (front.length + stop) =
      cut data start stop := by
  rw [ cut_of_prefix within (by rw [List.length_append]; omega)]
  unfold cut
  rw [List.drop_append, List.drop_of_length_le (Nat.le_add_right _ _),
    List.nil_append, Nat.add_sub_cancel_left, Nat.add_sub_add_left]

theorem getElem?_placed (within : front ++ data <+: full) {off : Nat}
    {byte : UInt8} (here : data[off]? = some byte) :
    full[front.length + off]? = some byte := by
  obtain ⟨rest, whole⟩ := within
  obtain ⟨inside, _value⟩ := List.getElem?_eq_some_iff.mp here
  rw [← whole, List.append_assoc,
    List.getElem?_append_right (Nat.le_add_right _ _), Nat.add_sub_cancel_left,
    List.getElem?_append_left inside]
  exact here

theorem cellAt_placed (within : front ++ data <+: full) :
    Cells.PlacedAt (cellAt data) (cellAt full) front.length := by
  intro off cell at_cell
  have longer := within.length_le
  rw [List.length_append] at longer
  unfold cellAt at at_cell ⊢
  cases here : data[off]? with
  | none =>
      rw [here] at at_cell
      cases at_cell
  | some byte =>
      rw [here] at at_cell
      rw [getElem?_placed within here]
      dsimp only at at_cell ⊢
      split at at_cell
      · rename_i root
        rw [Option.some.injEq] at at_cell
        rw [if_pos root, ← at_cell]
        rfl
      · rename_i nonzero
        rw [if_neg nonzero]
        split at at_cell
        · rename_i pointer
          rw [Option.some.injEq] at at_cell
          rw [if_pos ⟨pointer.1, by omega⟩, ← at_cell, Nat.add_assoc,
            cut_placed within pointer.2]
          rfl
        · split at at_cell
          · rename_i label
            have differs : ¬(byte.toNat &&& 0xc0 = 0xc0 ∧
                front.length + off + 2 ≤ full.length) := by
              intro both
              have clash := both.1.symm.trans label.1
              contradiction
            rw [Option.some.injEq] at at_cell
            rw [if_neg differs, if_pos ⟨label.1, by omega⟩, ← at_cell,
              Nat.add_assoc, Nat.add_assoc, cut_placed within label.2]
            rfl
          · cases at_cell

end Placed

/-- The name at `off` is spelled inside the data up to `behind`, at most up to a
pointer that leads into `start`, the beginning of the message. -/
def NameInside (start rdata : Bytes) (off behind : Nat) : Prop :=
  ∃ labels, SpellsInto (cellAt rdata) (cellAt start) off labels behind

section Names

variable {buf full start before front rdata : Bytes} {off behind : Nat}

theorem spells_moved {labels : List Bytes}
    (spelled : SpellsInto (cellAt rdata) (cellAt start) off labels behind)
    (placed : front ++ rdata <+: full) (begins : start <+: full) :
    Spells (cellAt full) start.length (front.length + off) labels
      (front.length + behind) := by
  apply spelled.spells (cellAt_placed placed) (cellAt_extends begins)
  intro target present
  cases at_cell : cellAt start target with
  | none => exact absurd at_cell present
  | some cell => exact cellAt_inside at_cell

/-- A name inside the data is read the same wherever the data stands behind
`start`. -/
theorem unpackName_moved (inside : NameInside start rdata off behind)
    (here : before ++ rdata <+: buf) (begins : start <+: buf)
    (there : front ++ rdata <+: full) (behindStart : start <+: front)
    {name : PyStr} {stop : Nat}
    (read : unpackName buf (before.length + off) = .ok (name, stop)) :
    stop = before.length + behind ∧
      unpackName full (front.length + off) =
        .ok (name, front.length + behind) := by
  obtain ⟨labels, spelled⟩ := inside
  obtain ⟨readLabels, text, short, cells⟩ := unpackName_eq_ok.mp read
  obtain ⟨same, position⟩ := cells.unique (spells_moved spelled here begins)
  rw [same] at text short
  have whole : start <+: full :=
    behindStart.trans ((List.prefix_append _ _).trans there)
  have moved := spells_moved spelled there whole
  have higher : start.length ≤ front.length + off :=
    Nat.le_trans behindStart.length_le (Nat.le_add_right _ _)
  exact ⟨position,
    unpackName_eq_ok.mpr ⟨labels, text, short, moved.raise higher⟩⟩

end Names

/-- What `unpack_rdata` reads for the record stands in its data, but for what
pointers into `start` lead to. -/
structure RR.DataInside (start : Bytes) (rr : RR) : Prop where
  target : rr.type ∈ targetTypes →
    ∃ behind, NameInside start rr.rdata 0 behind
  soa : rr.type = dnsSoa → ∃ middle behind,
    NameInside start rr.rdata 0 middle ∧
      NameInside start rr.rdata middle behind ∧ behind + 20 ≤ rr.rdata.length
  mx : rr.type = dnsMx → ∃ behind, NameInside start rr.rdata 2 behind
  srv : rr.type = dnsSrv → ∃ behind, NameInside start rr.rdata 6 behind

section Records

variable {buf full start before front rdata : Bytes} {name name' : PyStr}
  {type cls ttl rlen rlen' : Nat} {source : RR}

theorem decodes_moved
    (decodes : Decodes buf before.length { name, type, cls, ttl, rlen, rdata }
      source)
    (inside : source.DataInside start)
    (here : before ++ rdata <+: buf) (begins : start <+: buf)
    (there : front ++ rdata <+: full) (behindStart : start <+: front)
    (same : SameName name name') :
    ∃ got, unpackRdata { name := name', type, cls, ttl, rlen := rlen', rdata }
        full front.length = .ok got ∧ SameDecoded source got := by
  have moved : ∀ off behind read stop, NameInside start rdata off behind →
      unpackName buf (before.length + off) = .ok (read, stop) →
        stop = before.length + behind ∧
          unpackName full (front.length + off) =
            .ok (read, front.length + behind) :=
    fun _off _behind _read _stop nameInside read =>
      unpackName_moved nameInside here begins there behindStart read
  have sameName : upToCase name' = upToCase name := same
  cases decodes with
  | a typed =>
      exact ⟨_, unpackRdata_of_decodes (.a typed),
        by simp [SameDecoded, RR.decoded, sameName]⟩
  | ns typed read =>
      obtain ⟨_, nameInside⟩ := inside.target
        (mem_targetTypes.mpr (Or.inl typed))
      obtain ⟨_, again⟩ := moved 0 _ _ _ nameInside read
      exact ⟨_, unpackRdata_of_decodes (.ns typed again),
        by simp [SameDecoded, RR.decoded, sameName]⟩
  | cname typed read =>
      obtain ⟨_, nameInside⟩ := inside.target
        (mem_targetTypes.mpr (Or.inr (Or.inl typed)))
      obtain ⟨_, again⟩ := moved 0 _ _ _ nameInside read
      exact ⟨_, unpackRdata_of_decodes (.cname typed again),
        by simp [SameDecoded, RR.decoded, sameName]⟩
  | ptr typed read =>
      obtain ⟨_, nameInside⟩ := inside.target
        (mem_targetTypes.mpr (Or.inr (Or.inr typed)))
      obtain ⟨_, again⟩ := moved 0 _ _ _ nameInside read
      exact ⟨_, unpackRdata_of_decodes (.ptr typed again),
        by simp [SameDecoded, RR.decoded, sameName]⟩
  | soa typed first second numbers =>
      obtain ⟨middle, behind, mnameInside, rnameInside, room⟩ :=
        inside.soa typed
      obtain ⟨position, firstAgain⟩ := moved 0 _ _ _ mnameInside first
      rw [position] at second
      obtain ⟨position', secondAgain⟩ := moved _ _ _ _ rnameInside second
      rw [position', Nat.add_assoc, cut_placed here room,
        ← cut_placed there room, ← Nat.add_assoc] at numbers
      exact ⟨_, unpackRdata_of_decodes (.soa typed firstAgain secondAgain
        numbers), by simp [SameDecoded, RR.decoded, sameName]⟩
  | mx typed number read =>
      obtain ⟨_, nameInside⟩ := inside.mx typed
      obtain ⟨_, again⟩ := moved 2 _ _ _ nameInside read
      exact ⟨_, unpackRdata_of_decodes (.mx typed number again),
        by simp [SameDecoded, RR.decoded, sameName]⟩
  | text typed read =>
      exact ⟨_, unpackRdata_of_decodes (.text typed read),
        by simp [SameDecoded, RR.decoded, sameName]⟩
  | aaaa typed =>
      exact ⟨_, unpackRdata_of_decodes (.aaaa typed),
        by simp [SameDecoded, RR.decoded, sameName]⟩
  | null typed =>
      exact ⟨_, unpackRdata_of_decodes (.null typed),
        by simp [SameDecoded, RR.decoded, sameName]⟩
  | srv typed numbers read =>
      obtain ⟨_, nameInside⟩ := inside.srv typed
      obtain ⟨_, again⟩ := moved 6 _ _ _ nameInside read
      exact ⟨_, unpackRdata_of_decodes (.srv typed numbers again),
        by simp [SameDecoded, RR.decoded, sameName]⟩
  | opt typed =>
      exact ⟨_, unpackRdata_of_decodes (.opt typed),
        by simp [SameDecoded, RR.decoded, sameName]⟩

end Records

end DpktNg.Dns
