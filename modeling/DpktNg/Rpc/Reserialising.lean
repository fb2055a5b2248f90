/-
Which messages come back from the bytes of the parsed message.
-/

import DpktNg.Rpc.Message

namespace DpktNg.Rpc

open Library

def word (buf : Bytes) (off : Nat) : Nat := beNat (cut buf off (off + 4))

/-- The end of the authenticator at an offset, by its declared length. -/
def authEnd (buf : Bytes) (off : Nat) : Nat := off + 8 + word buf (off + 4)

theorem word_drop (buf : Bytes) (skipped off : Nat) :
    word (buf.drop skipped) off = word buf (skipped + off) := by
  unfold word
  rw [cut_drop, Nat.add_assoc]

theorem authEnd_drop (buf : Bytes) (skipped off : Nat) :
    skipped + authEnd (buf.drop skipped) off = authEnd buf (skipped + off) := by
  unfold authEnd
  rw [word_drop, Nat.add_assoc skipped off 4]
  omega

def wordFields (buf : Bytes) : Nat → Nat → List (Nat × Nat)
  | _, 0 => []
  | off, count + 1 => (4, word buf off) :: wordFields buf (off + 4) count

theorem packFields_words {buf : Bytes} {off count : Nat}
    (within : off + 4 * count ≤ buf.length) :
    packFields (wordFields buf off count) =
      .ok (cut buf off (off + 4 * count)) := by
  induction count generalizing off with
  | zero =>
      unfold cut
      rw [Nat.mul_zero, Nat.add_zero, Nat.sub_self]
      rfl
  | succ count ih =>
      have first : packBe 4 (word buf off) = .ok (cut buf off (off + 4)) := by
        apply packBe_beNat
        rw [cut_length_of_le (by omega), Nat.add_sub_cancel_left]
      have rest := @ih (off + 4) (by omega)
      rw [wordFields, packFields, first, ok_bind, rest, ok_bind,
        cut_append_cut buf (by omega) (by omega)]
      congr 2
      omega

theorem le_authEnd (buf : Bytes) (off : Nat) : off ≤ authEnd buf off := by
  unfold authEnd
  omega

theorem Auth.parse_spec {buf : Bytes} {auth : Auth}
    (parsed : Auth.parse buf = .ok auth)
    (present : authEnd buf 0 ≤ buf.length) :
    auth.size = authEnd buf 0 ∧
      auth.bytes = .ok (buf.take (authEnd buf 0)) := by
  have stop : authEnd buf 0 = 8 + word buf 4 := by
    change 0 + 8 + word buf 4 = 8 + word buf 4
    rw [Nat.zero_add]
  rw [stop] at present ⊢
  have unpacked : Auth.unpack buf = .ok auth := packetInit_eq_ok.mp parsed
  unfold Auth.unpack at unpacked
  obtain ⟨⟨hdr, data⟩, split, unpacked⟩ := bind_eq_ok.mp unpacked
  obtain ⟨n, read, same⟩ := bind_eq_ok.mp unpacked
  obtain ⟨_enough, hdrSame, dataSame⟩ := takeHeader_eq_ok.mp split
  obtain ⟨_four, value⟩ := unpackBe_eq_ok.mp read
  have length : n = word buf 4 := by
    rw [value, dataSame]
    rfl
  have content : cut data 4 (4 + n) = cut buf 8 (8 + word buf 4) := by
    rw [dataSame, cut_drop, length, ← Nat.add_assoc]
  have size : (cut buf 8 (8 + word buf 4)).length = word buf 4 := by
    rw [cut_length_of_le present, Nat.add_sub_cancel_left]
  have flavor : packHdr (wordFields buf 0 1) = .ok (buf.take 4) :=
    packHdr_of_packFields (packFields_words (by omega))
  have declared : packBe 4 (word buf 4) = .ok (cut buf 4 8) := by
    apply packBe_beNat
    rw [cut_length_of_le (by omega)]
  cases same
  unfold Auth.size Auth.bytes
  dsimp only
  rw [content, size, hdrSame]
  change _ ∧ (packHdr (wordFields buf 0 1) >>= _) = _
  rw [flavor, ok_bind, declared, ok_bind, take_append_cut (by omega),
    take_append_cut (by omega)]
  exact ⟨rfl, rfl⟩

/-- What a call is written as: the data behind the two authenticators stands
in front of them as well. -/
def keptByCall (buf : Bytes) : Bytes :=
  buf.take 16 ++ buf.drop (authEnd buf (authEnd buf 16)) ++ buf.drop 16

theorem Call.parse_spec {buf : Bytes} {call : Call}
    (parsed : Call.parse buf = .ok call)
    (credPresent : authEnd buf 16 ≤ buf.length)
    (verfPresent : authEnd buf (authEnd buf 16) ≤ buf.length) :
    call.bytes = .ok (keptByCall buf) := by
  have unpacked : Call.unpack buf = .ok call := packetInit_eq_ok.mp parsed
  unfold Call.unpack at unpacked
  obtain ⟨⟨hdr, data⟩, split, unpacked⟩ := bind_eq_ok.mp unpacked
  obtain ⟨cred, parsedCred, unpacked⟩ := bind_eq_ok.mp unpacked
  obtain ⟨verf, parsedVerf, same⟩ := bind_eq_ok.mp unpacked
  obtain ⟨enough, hdrSame, dataSame⟩ := takeHeader_eq_ok.mp split
  have credEnd := authEnd_drop buf 16 0
  rw [Nat.add_zero] at credEnd
  rw [dataSame] at parsedCred parsedVerf
  obtain ⟨credSize, credBytes⟩ := Auth.parse_spec parsedCred
    (by rw [List.length_drop]; omega)
  rw [List.drop_drop, credSize, credEnd] at parsedVerf
  have verfEnd := authEnd_drop buf (authEnd buf 16) 0
  rw [Nat.add_zero] at verfEnd
  obtain ⟨verfSize, verfBytes⟩ := Auth.parse_spec parsedVerf
    (by rw [List.length_drop]; omega)
  have header : packHdr (wordFields buf 0 4) = .ok (buf.take 16) :=
    packHdr_of_packFields (packFields_words (by omega))
  have credCut : (buf.drop 16).take (authEnd (buf.drop 16) 0) =
      cut buf 16 (authEnd buf 16) := by
    rw [← credEnd]
    unfold cut
    rw [Nat.add_sub_cancel_left]
  have verfCut : (buf.drop (authEnd buf 16)).take
      (authEnd (buf.drop (authEnd buf 16)) 0) =
        cut buf (authEnd buf 16) (authEnd buf (authEnd buf 16)) := by
    rw [← verfEnd]
    unfold cut
    rw [Nat.add_sub_cancel_left]
  have behind : data.drop (cred.size + verf.size) =
      buf.drop (authEnd buf (authEnd buf 16)) := by
    rw [dataSame, List.drop_drop, credSize, verfSize, ← Nat.add_assoc, credEnd,
      verfEnd]
  cases same
  unfold Call.bytes keptByCall
  dsimp only
  rw [hdrSame, cut_take (by omega), cut_take (by omega), cut_take (by omega),
    cut_take (by omega)]
  change (packHdr (wordFields buf 0 4) >>= _) = _
  rw [header, ok_bind, credBytes, ok_bind, verfBytes, ok_bind, behind, credCut,
    verfCut, List.append_assoc _ (cut _ _ _) (cut _ _ _),
    cut_append_cut buf (by omega) (by omega), List.append_assoc,
    cut_append_drop buf (by omega)]

/-! ### Replies -/

theorem takeHeader_word {buf hdr data : Bytes}
    (split : takeHeader 4 buf = .ok (hdr, data)) :
    4 ≤ buf.length ∧ beNat hdr = word buf 0 ∧ data = buf.drop 4 := by
  obtain ⟨enough, hdrSame, dataSame⟩ := takeHeader_eq_ok.mp split
  refine ⟨enough, ?_, dataSame⟩
  rw [hdrSame]
  rfl

theorem Mismatch.unpack_spec {buf : Bytes} {off : Nat} {mismatch : Mismatch}
    (unpacked : Mismatch.unpack (cut buf off (off + 8)) = .ok mismatch) :
    off + 8 ≤ buf.length ∧ mismatch.low = word buf off ∧
      mismatch.high = word buf (off + 4) := by
  unfold Mismatch.unpack at unpacked
  split at unpacked
  · rename_i whole
    cases unpacked
    dsimp only
    rw [cut_cut (by omega), cut_cut (by omega)]
    unfold cut at whole
    rw [List.length_take, List.length_drop] at whole
    exact ⟨by omega, rfl, rfl⟩
  · cases unpacked

/-- What an accepted reply keeps of its buffer: behind a status without a
branch of its own, the data is dropped. -/
def keptByAccept (buf : Bytes) : Bytes :=
  if word buf (authEnd buf 0) = success ∨
      word buf (authEnd buf 0) = progMismatch then buf
  else buf.take (authEnd buf 0 + 4)

theorem Accept.parse_spec {buf : Bytes} {accept : Accept}
    (parsed : Accept.parse buf = .ok accept)
    (present : authEnd buf 0 ≤ buf.length) :
    authEnd buf 0 + 4 ≤ buf.length ∧ accept.bytes = .ok (keptByAccept buf) ∧
      accept.size = (keptByAccept buf).length := by
  have unpacked : Accept.unpack buf = .ok accept := packetInit_eq_ok.mp parsed
  unfold Accept.unpack at unpacked
  obtain ⟨verf, parsedVerf, unpacked⟩ := bind_eq_ok.mp unpacked
  obtain ⟨size, bytes⟩ := Auth.parse_spec parsedVerf present
  dsimp only at unpacked
  obtain ⟨stat, read, unpacked⟩ := bind_eq_ok.mp unpacked
  obtain ⟨four, value⟩ := unpackBe_eq_ok.mp read
  rw [size] at four value unpacked
  rw [List.length_take, List.length_drop] at four
  have status : stat = word buf (authEnd buf 0) := by
    rw [value]
    unfold word cut
    rw [Nat.add_sub_cancel_left]
  have header := packHdr_of_packFields
    (@packFields_words buf (authEnd buf 0) 1 (by omega))
  refine ⟨by omega, ?_⟩
  rw [status, List.drop_drop] at unpacked
  unfold keptByAccept
  split at unpacked
  · rename_i succeeded
    have notMismatched : word buf (authEnd buf 0) ≠ progMismatch := by
      rw [succeeded]
      decide
    cases unpacked
    unfold Accept.bytes Accept.size
    dsimp only
    rw [if_neg notMismatched, if_neg notMismatched, if_pos (Or.inl succeeded),
      bytes, ok_bind]
    change (packHdr (wordFields buf (authEnd buf 0) 1) >>= _) = _ ∧ _
    rw [header, ok_bind, cut_append_drop buf (by omega),
      List.take_append_drop, size, List.length_drop]
    exact ⟨rfl, by omega⟩
  · rename_i notSucceeded
    split at unpacked
    · rename_i mismatched
      obtain ⟨mismatch, read, same⟩ := bind_eq_ok.mp unpacked
      rw [cut_drop] at read
      obtain ⟨long, low, high⟩ := Mismatch.unpack_spec read
      have packed := @packFields_words buf (authEnd buf 0) 3 (by omega)
      cases same
      unfold Accept.bytes Accept.size
      dsimp only
      rw [if_pos mismatched, if_pos mismatched, if_pos (Or.inr mismatched),
        bytes, ok_bind, getAttr_some, ok_bind, low, high]
      change (packFields (wordFields buf (authEnd buf 0) 3) >>= _) = _ ∧ _
      rw [packed, ok_bind, List.append_assoc, List.drop_drop,
        cut_append_drop buf (by omega), List.take_append_drop, size,
        List.length_drop]
      exact ⟨rfl, by omega⟩
    · rename_i notMismatched
      cases unpacked
      unfold Accept.bytes Accept.size
      dsimp only
      rw [if_neg notMismatched, if_neg notMismatched,
        if_neg (not_or_intro notSucceeded notMismatched), bytes, ok_bind]
      change (packHdr (wordFields buf (authEnd buf 0) 1) >>= _) = _ ∧ _
      rw [header, ok_bind, List.append_nil, take_append_cut (by omega), size,
        List.length_take, List.length_nil]
      exact ⟨rfl, by omega⟩

theorem Reject.parse_spec {buf : Bytes} {reject : Reject}
    (parsed : Reject.parse buf = .ok reject) :
    reject.bytes = .ok buf ∧ reject.size = buf.length := by
  have unpacked : Reject.unpack buf = .ok reject := packetInit_eq_ok.mp parsed
  unfold Reject.unpack at unpacked
  obtain ⟨⟨hdr, data⟩, split, unpacked⟩ := bind_eq_ok.mp unpacked
  obtain ⟨enough, stat, dataSame⟩ := takeHeader_word split
  dsimp only at unpacked
  rw [stat, dataSame] at unpacked
  split at unpacked
  · rename_i mismatched
    obtain ⟨mismatch, read, same⟩ := bind_eq_ok.mp unpacked
    change Mismatch.unpack (cut buf 4 (4 + 8)) = _ at read
    obtain ⟨long, low, high⟩ := Mismatch.unpack_spec read
    cases same
    have packed := @packFields_words buf 0 3 (by omega)
    unfold Reject.bytes Reject.size
    dsimp only
    rw [if_pos mismatched, if_pos mismatched, getAttr_some, ok_bind, low, high]
    change (packFields (wordFields buf 0 3) >>= _) = _ ∧ _
    rw [packed, ok_bind, List.drop_drop, List.length_drop]
    change Except.ok (buf.take 12 ++ buf.drop 12) = _ ∧ _
    rw [List.take_append_drop]
    exact ⟨rfl, by omega⟩
  · rename_i notMismatched
    split at unpacked
    · rename_i refused
      obtain ⟨why, read, same⟩ := bind_eq_ok.mp unpacked
      obtain ⟨four, value⟩ := unpackBe_eq_ok.mp read
      rw [List.length_take, List.length_drop] at four
      have packed := @packFields_words buf 0 2 (by omega)
      cases same
      unfold Reject.bytes Reject.size
      dsimp only
      rw [if_neg notMismatched, if_pos refused, if_neg notMismatched,
        if_pos refused, value]
      change (packFields (wordFields buf 0 2) >>= _) = _ ∧ _
      rw [packed, ok_bind, List.drop_drop, List.length_drop]
      change Except.ok (buf.take 8 ++ buf.drop 8) = _ ∧ _
      rw [List.take_append_drop]
      exact ⟨rfl, by omega⟩
    · rename_i notRefused
      have packed := packHdr_of_packFields
        (@packFields_words buf 0 1 (by omega))
      cases unpacked
      unfold Reject.bytes Reject.size
      dsimp only
      rw [if_neg notMismatched, if_neg notRefused, if_neg notMismatched,
        if_neg notRefused]
      change (packHdr (wordFields buf 0 1) >>= _) = _ ∧ _
      rw [packed, ok_bind, List.length_drop]
      change Except.ok (buf.take 4 ++ buf.drop 4) = _ ∧ _
      rw [List.take_append_drop]
      exact ⟨rfl, by omega⟩

def keptByReply (buf : Bytes) : Bytes :=
  if word buf 0 = msgAccepted then buf.take 4 ++ keptByAccept (buf.drop 4)
  else buf

theorem Reply.parse_spec {buf : Bytes} {reply : Reply}
    (parsed : Reply.parse buf = .ok reply)
    (present : word buf 0 = msgAccepted → authEnd buf 4 ≤ buf.length) :
    (word buf 0 = msgAccepted → authEnd buf 4 + 4 ≤ buf.length) ∧
      reply.bytes = .ok (keptByReply buf) ∧
      reply.size = (keptByReply buf).length := by
  have unpacked : Reply.unpack buf = .ok reply := packetInit_eq_ok.mp parsed
  unfold Reply.unpack at unpacked
  obtain ⟨⟨hdr, data⟩, split, unpacked⟩ := bind_eq_ok.mp unpacked
  obtain ⟨enough, stat, dataSame⟩ := takeHeader_word split
  dsimp only at unpacked
  have header := packHdr_of_packFields
    (@packFields_words buf 0 1 (by omega))
  rw [stat, dataSame] at unpacked
  unfold keptByReply
  split at unpacked
  · rename_i accepted
    obtain ⟨accept, parsedAccept, same⟩ := bind_eq_ok.mp unpacked
    have stop := authEnd_drop buf 4 0
    rw [Nat.add_zero] at stop
    have within := present accepted
    obtain ⟨room, bytes, size⟩ := Accept.parse_spec parsedAccept
      (by rw [List.length_drop]; omega)
    rw [List.length_drop] at room
    cases same
    unfold Reply.bytes Reply.size
    dsimp only
    rw [if_pos accepted, size, bytes, List.length_append, List.length_take]
    change _ ∧ (packHdr (wordFields buf 0 1) >>= _) = _ ∧ _
    rw [header, ok_bind, ok_bind]
    exact ⟨fun _accepted => by omega, rfl, by omega⟩
  · rename_i notAccepted
    refine ⟨fun accepted => absurd accepted notAccepted, ?_⟩
    rw [if_neg notAccepted]
    split at unpacked
    · obtain ⟨reject, parsedReject, same⟩ := bind_eq_ok.mp unpacked
      obtain ⟨bytes, size⟩ := Reject.parse_spec parsedReject
      cases same
      unfold Reply.bytes Reply.size
      dsimp only
      rw [bytes, size, List.length_drop]
      change (packHdr (wordFields buf 0 1) >>= _) = _ ∧ _
      rw [header, ok_bind, ok_bind]
      change Except.ok (buf.take 4 ++ buf.drop 4) = _ ∧ _
      rw [List.take_append_drop]
      exact ⟨rfl, by omega⟩
    · cases unpacked
      unfold Reply.bytes Reply.size
      dsimp only
      rw [List.length_drop]
      change (packHdr (wordFields buf 0 1) >>= _) = _ ∧ _
      rw [header, ok_bind, ok_bind]
      change Except.ok (buf.take 4 ++ buf.drop 4) = _ ∧ _
      rw [List.take_append_drop]
      exact ⟨rfl, by omega⟩

/-! ### Messages -/

/-- Every authenticator is there up to its declared length. -/
def AuthsPresent (buf : Bytes) : Prop :=
  (word buf 4 = call → authEnd buf 24 ≤ buf.length ∧
    authEnd buf (authEnd buf 24) ≤ buf.length) ∧
  (word buf 4 = reply → word buf 8 = msgAccepted →
    authEnd buf 12 ≤ buf.length)

/-- A call has no arguments, and an accepted reply has nothing behind a status
other than `SUCCESS` and `PROG_MISMATCH`. -/
def NothingBehind (buf : Bytes) : Prop :=
  (word buf 4 = call → buf.length = authEnd buf (authEnd buf 24)) ∧
  (word buf 4 = reply → word buf 8 = msgAccepted →
    word buf (authEnd buf 12) ≠ success →
    word buf (authEnd buf 12) ≠ progMismatch →
      buf.length = authEnd buf 12 + 4)

instance (buf : Bytes) : Decidable (AuthsPresent buf) :=
  inferInstanceAs (Decidable (_ ∧ _))

instance (buf : Bytes) : Decidable (NothingBehind buf) :=
  inferInstanceAs (Decidable (_ ∧ _))

/-- The bytes and the length of the message are those of the buffer. -/
def Reserialised (buf : Bytes) (rpc : RPC) : Prop :=
  rpc.bytes = .ok buf ∧ rpc.size = .ok buf.length

instance (buf : Bytes) (rpc : RPC) : Decidable (Reserialised buf rpc) :=
  inferInstanceAs (Decidable (_ ∧ _))

def keptByMessage (buf : Bytes) : Bytes :=
  if word buf 4 = call then keptByCall (buf.drop 8)
  else if word buf 4 = reply then keptByReply (buf.drop 8)
  else buf.drop 8

theorem AuthsPresent.body {buf : Bytes} (present : AuthsPresent buf) :
    (word buf 4 = call →
      authEnd (buf.drop 8) 16 ≤ (buf.drop 8).length ∧
        authEnd (buf.drop 8) (authEnd (buf.drop 8) 16) ≤
          (buf.drop 8).length) ∧
    (word buf 4 = reply → word (buf.drop 8) 0 = msgAccepted →
      authEnd (buf.drop 8) 4 ≤ (buf.drop 8).length) := by
  have cred : 8 + authEnd (buf.drop 8) 16 = authEnd buf 24 :=
    authEnd_drop buf 8 16
  have verf := authEnd_drop buf 8 (authEnd (buf.drop 8) 16)
  have accepted : 8 + authEnd (buf.drop 8) 4 = authEnd buf 12 :=
    authEnd_drop buf 8 4
  have stat : word (buf.drop 8) 0 = word buf 8 := word_drop buf 8 0
  rw [cred] at verf
  rw [List.length_drop, stat]
  constructor
  · intro isCall
    have within := present.1 isCall
    omega
  · intro isReply isAccepted
    have within := present.2 isReply isAccepted
    omega

theorem RPC.parse_spec {buf : Bytes} {rpc : RPC}
    (parsed : RPC.parse buf = .ok rpc) (present : AuthsPresent buf) :
    8 ≤ buf.length ∧
      (word buf 4 = reply → word (buf.drop 8) 0 = msgAccepted →
        authEnd (buf.drop 8) 4 + 4 ≤ (buf.drop 8).length) ∧
      rpc.bytes = .ok (buf.take 8 ++ keptByMessage buf) ∧
      rpc.size = .ok (8 + (keptByMessage buf).length) := by
  have unpacked : RPC.unpack buf = .ok rpc := packetInit_eq_ok.mp parsed
  unfold RPC.unpack at unpacked
  obtain ⟨⟨hdr, data⟩, split, unpacked⟩ := bind_eq_ok.mp unpacked
  obtain ⟨enough, hdrSame, dataSame⟩ := takeHeader_eq_ok.mp split
  dsimp only at unpacked
  have xid : beNat (cut hdr 0 4) = word buf 0 := by
    rw [hdrSame, cut_take (by omega)]
    rfl
  have dir : beNat (cut hdr 4 8) = word buf 4 := by
    rw [hdrSame, cut_take (by omega)]
    rfl
  rw [xid, dir, dataSame] at unpacked
  have header := packHdr_of_packFields
    (@packFields_words buf 0 2 (by omega))
  have offsets := present.body
  refine ⟨enough, ?_⟩
  unfold keptByMessage
  split at unpacked
  · rename_i isCall
    have notReply : word buf 4 ≠ reply := by
      rw [isCall]
      decide
    obtain ⟨call, parsedCall, same⟩ := bind_eq_ok.mp unpacked
    have within := offsets.1 isCall
    have bytes := Call.parse_spec parsedCall within.1 within.2
    cases same
    refine ⟨fun isReply => absurd isReply notReply, ?_⟩
    unfold RPC.bytes RPC.size Call.size
    dsimp only
    rw [if_pos isCall, bytes, ok_bind, ok_bind]
    change (packHdr (wordFields buf 0 2) >>= _) = _ ∧ _
    rw [header, ok_bind, ok_bind]
    exact ⟨rfl, rfl⟩
  · rename_i notCall
    rw [if_neg notCall]
    split at unpacked
    · rename_i isReply
      obtain ⟨reply, parsedReply, same⟩ := bind_eq_ok.mp unpacked
      obtain ⟨room, bytes, size⟩ :=
        Reply.parse_spec parsedReply (offsets.2 isReply)
      cases same
      refine ⟨fun _isReply => room, ?_⟩
      unfold RPC.bytes RPC.size
      dsimp only
      rw [if_pos isReply, bytes, size]
      change (packHdr (wordFields buf 0 2) >>= _) = _ ∧ _
      rw [header, ok_bind, ok_bind]
      exact ⟨rfl, rfl⟩
    · rename_i notReply
      cases unpacked
      refine ⟨fun isReply => absurd isReply notReply, ?_⟩
      unfold RPC.bytes RPC.size
      dsimp only
      rw [if_neg notReply]
      change (packHdr (wordFields buf 0 2) >>= _) = _ ∧ _
      rw [header, ok_bind, ok_bind]
      exact ⟨rfl, rfl⟩

theorem keptByCall_iff {buf : Bytes}
    (present : authEnd buf (authEnd buf 16) ≤ buf.length) :
    keptByCall buf = buf ↔ buf.length = authEnd buf (authEnd buf 16) := by
  have whole := List.take_append_drop 16 buf
  have cred := le_authEnd buf 16
  have verf := le_authEnd buf (authEnd buf 16)
  unfold keptByCall
  constructor
  · intro same
    have lengths := congrArg List.length same
    rw [List.length_append, List.length_append, List.length_take,
      List.length_drop, List.length_drop] at lengths
    omega
  · intro same
    rw [← same, List.drop_length, List.append_nil, whole]

theorem keptByReply_iff {buf : Bytes}
    (present : word buf 0 = msgAccepted → authEnd buf 4 + 4 ≤ buf.length) :
    keptByReply buf = buf ↔
      (word buf 0 = msgAccepted → word buf (authEnd buf 4) ≠ success →
        word buf (authEnd buf 4) ≠ progMismatch →
          buf.length = authEnd buf 4 + 4) := by
  have whole := List.take_append_drop 4 buf
  have stop : 4 + authEnd (buf.drop 4) 0 = authEnd buf 4 :=
    authEnd_drop buf 4 0
  have status := word_drop buf 4 (authEnd (buf.drop 4) 0)
  rw [stop] at status
  unfold keptByReply keptByAccept
  rw [status]
  by_cases accepted : word buf 0 = msgAccepted
  · have room := present accepted
    rw [if_pos accepted]
    by_cases branch : word buf (authEnd buf 4) = success ∨
        word buf (authEnd buf 4) = progMismatch
    · rw [if_pos branch]
      refine iff_of_true whole ?_
      intro _accepted notSucceeded notMismatched
      exact absurd branch (not_or_intro notSucceeded notMismatched)
    · obtain ⟨notSucceeded, notMismatched⟩ := not_or.mp branch
      rw [if_neg branch]
      constructor
      · intro same _accepted _notSucceeded _notMismatched
        have lengths := congrArg List.length same
        rw [List.length_append, List.length_take, List.length_take,
          List.length_drop] at lengths
        omega
      · intro ends
        have size := ends accepted notSucceeded notMismatched
        have all : (buf.drop 4).take (authEnd (buf.drop 4) 0 + 4) =
            buf.drop 4 := by
          apply List.take_of_length_le
          rw [List.length_drop]
          omega
        rw [all, whole]
  · rw [if_neg accepted]
    exact iff_of_true rfl (fun isAccepted => absurd isAccepted accepted)

theorem reserialised_iff_kept {buf : Bytes} {rpc : RPC}
    (parsed : RPC.parse buf = .ok rpc) (present : AuthsPresent buf) :
    Reserialised buf rpc ↔ keptByMessage buf = buf.drop 8 := by
  obtain ⟨enough, _room, bytes, size⟩ := RPC.parse_spec parsed present
  have whole := List.take_append_drop 8 buf
  unfold Reserialised
  rw [bytes, size, Except.ok.injEq, Except.ok.injEq]
  constructor
  · intro same
    have split := same.1.trans whole.symm
    exact List.append_cancel_left split
  · intro same
    rw [same, whole, List.length_drop]
    exact ⟨rfl, by omega⟩

/-- What is behind the authenticators of a call is written twice, and what is
behind a status without a branch of its own not at all; everything else comes
back. -/
theorem rpc_reserialised_iff (buf : Bytes) (rpc : RPC)
    (parsed : RPC.parse buf = .ok rpc) (present : AuthsPresent buf) :
    Reserialised buf rpc ↔ NothingBehind buf := by
  obtain ⟨enough, room, _bytes, _size⟩ := RPC.parse_spec parsed present
  have offsets := present.body
  have cred : 8 + authEnd (buf.drop 8) 16 = authEnd buf 24 :=
    authEnd_drop buf 8 16
  have verf := authEnd_drop buf 8 (authEnd (buf.drop 8) 16)
  rw [cred] at verf
  have accepted : 8 + authEnd (buf.drop 8) 4 = authEnd buf 12 :=
    authEnd_drop buf 8 4
  have status := word_drop buf 8 (authEnd (buf.drop 8) 4)
  rw [accepted] at status
  have stat : word (buf.drop 8) 0 = word buf 8 := word_drop buf 8 0
  rw [reserialised_iff_kept parsed present]
  unfold keptByMessage NothingBehind
  by_cases isCall : word buf 4 = call
  · have notReply : word buf 4 ≠ reply := by
      rw [isCall]
      decide
    rw [if_pos isCall, keptByCall_iff (offsets.1 isCall).2, List.length_drop]
    constructor
    · intro ends
      exact ⟨fun _isCall => by omega,
        fun isReply => absurd isReply notReply⟩
    · intro behind
      have ends := behind.1 isCall
      omega
  · rw [if_neg isCall]
    by_cases isReply : word buf 4 = reply
    · rw [if_pos isReply, keptByReply_iff (room isReply), stat, status,
        List.length_drop]
      constructor
      · intro ends
        refine ⟨fun called => absurd called isCall, ?_⟩
        intro _isReply isAccepted notSucceeded notMismatched
        have size := ends isAccepted notSucceeded notMismatched
        omega
      · intro behind isAccepted notSucceeded notMismatched
        have size := behind.2 isReply isAccepted notSucceeded notMismatched
        omega
    · rw [if_neg isReply]
      exact iff_of_true rfl ⟨fun called => absurd called isCall,
        fun replied => absurd replied isReply⟩

def answered : Bytes :=
  [0, 0, 0, 7, 0, 0, 0, 1, 0, 0, 0, 0, 0, 0, 0, 0, 0, 0, 0, 0, 0, 0, 0, 0, 1, 2]

def answer : RPC :=
  ⟨7, 1, .reply ⟨0, .accept ⟨{}, 0, none, [1, 2]⟩⟩⟩

theorem answered_comes_back : Reserialised answered answer :=
  (rpc_reserialised_iff answered answer (by decide) (by decide)).mpr
    (by decide)

def calledWithArgument : Bytes :=
  [0, 0, 0, 7, 0, 0, 0, 0] ++ [0, 0, 0, 2] ++ zeros 28 ++ [5]

theorem argument_written_twice :
    ¬∀ buf rpc, RPC.parse buf = .ok rpc → AuthsPresent buf →
      Reserialised buf rpc := by
  intro always
  have same := always calledWithArgument
    ⟨7, 0, .call { data := [5] }⟩ (by decide) (by decide)
  exact absurd same (by decide)

end DpktNg.Rpc
