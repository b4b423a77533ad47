import Mathlib.Tactic.SplitIfs
import OpenSS7.Pfmod.Setf

/-!
The records of the buffering module: a packet is cut to the snapshot length,
padded and given a header in its own blocks where they have room, and a reader
steps through a chunk of records by `sbh_totlen`.
-/

namespace OpenSS7.Bufmod

/-- A block: the octets from `db_base` to `db_lim` with the two pointers into
them, and whether `db_ref` is above one. -/
structure Blk where
  base : List UInt8
  rptr : Nat
  wptr : Nat
  shared : Bool
deriving DecidableEq

namespace Blk

def data (b : Blk) : List UInt8 := (b.base.take b.wptr).drop b.rptr

def dlen (b : Blk) : Nat := b.wptr - b.rptr

structure WellFormed (b : Blk) : Prop where
  rptr_le : b.rptr ≤ b.base.length
  wptr_le : b.wptr ≤ b.base.length

structure Sound (b : Blk) : Prop where
  rptr_le : b.rptr ≤ b.wptr
  wptr_le : b.wptr ≤ b.base.length

/-- `allocb` of so many octets, written in full. -/
def alloc (octets : List UInt8) : Blk := ⟨octets, 0, octets.length, false⟩

end Blk

/-- `struct sb_hdr`, with a time of two words. -/
structure SbHdr where
  origlen : Nat
  msglen : Nat
  totlen : Nat
  drops : Nat
  sec : Nat
  usec : Nat
deriving DecidableEq

def sizeofSbHdr : Nat := 24

def word (n : Nat) : List UInt8 :=
  [n.toUInt8, (n / 2 ^ 8).toUInt8, (n / 2 ^ 16).toUInt8, (n / 2 ^ 24).toUInt8]

namespace SbHdr

def octets (h : SbHdr) : List UInt8 :=
  word h.origlen ++ word h.msglen ++ word h.totlen ++ word h.drops ++
    word h.sec ++ word h.usec

def read (dp : List UInt8) : SbHdr :=
  ⟨Pfmod.longAt dp 0, Pfmod.longAt dp 4, Pfmod.longAt dp 8, Pfmod.longAt dp 12,
    Pfmod.longAt dp 16, Pfmod.longAt dp 20⟩

structure Fits (h : SbHdr) : Prop where
  origlen : h.origlen < 2 ^ 32
  msglen : h.msglen < 2 ^ 32
  totlen : h.totlen < 2 ^ 32
  drops : h.drops < 2 ^ 32
  sec : h.sec < 2 ^ 32
  usec : h.usec < 2 ^ 32

end SbHdr

/-- A block in the loop of `bufmod_adjsize`. -/
def adjBlock (snap mlen : Nat) (b : Blk) : Blk :=
  { b with wptr :=
      if 0 < b.dlen then
        if snap = 0 ∨ mlen + b.dlen ≤ snap then b.wptr
        else b.rptr + (snap - mlen)
      else b.rptr }

/-- The blocks, `mlen` and `olen`; where a block is cut `mlen` comes to `snap`. -/
def adjBlocks (snap : Nat) : Nat → Nat → List Blk → List Blk × Nat × Nat
  | mlen, olen, [] => ([], mlen, olen)
  | mlen, olen, b :: bs =>
      let kept := adjBlock snap mlen b
      let r := adjBlocks snap (mlen + kept.dlen) (olen + b.dlen) bs
      (kept :: r.1, r.2)

/-- `(mlen + (sizeof(ulong) - 1)) & ~(sizeof(ulong) - 1)` -/
def padded (mlen : Nat) : Nat := (mlen + 7) / 8 * 8

/-- The last block in `bufmod_padmsg`. -/
def padBlock (pad : Nat) (e : Blk) : List Blk :=
  if pad = 0 then [e]
  else if e.wptr + pad ≤ e.base.length then
    [{ e with
      base := if e.shared then e.base
        else e.base.take e.wptr ++ List.replicate pad 0 ++
          e.base.drop (e.wptr + pad)
      wptr := e.wptr + pad }]
  else [e, .alloc (List.replicate pad 0)]

def padmsg (pad : Nat) : List Blk → List Blk
  | [] => []
  | [e] => padBlock pad e
  | b :: c :: bs => b :: padmsg pad (c :: bs)

/-- `bufmod_addheader`; `fastbuf` is FASTBUF. -/
def addheader (fastbuf : Nat) (h : SbHdr) : List Blk → List Blk
  | [] => []
  | b :: bs =>
      if !b.shared && decide (sizeofSbHdr ≤ b.rptr) then
        { b with
          base := b.base.take (b.rptr - sizeofSbHdr) ++ h.octets ++
            b.base.drop b.rptr
          rptr := b.rptr - sizeofSbHdr } :: bs
      else if !b.shared && decide (b.dlen < 4 * fastbuf) &&
          decide (sizeofSbHdr ≤ b.base.length - b.dlen) then
        -- the data are moved to behind where the header goes
        { b with
          base := h.octets ++ b.data ++ b.base.drop (sizeofSbHdr + b.dlen)
          rptr := 0
          wptr := sizeofSbHdr + b.dlen } :: bs
      else .alloc h.octets :: b :: bs

/-- A packet with what its header is to be given. -/
structure Packet where
  blocks : List Blk
  drops : Nat
  sec : Nat
  usec : Nat

/-- `bufmod_msgadjust` where headers are used and the packet is not dropped. -/
def Packet.record (fastbuf snap : Nat) (p : Packet) : SbHdr × List Blk :=
  let r := adjBlocks snap 0 0 p.blocks
  let h : SbHdr :=
    ⟨r.2.2, r.2.1, sizeofSbHdr + padded r.2.1, p.drops, p.sec, p.usec⟩
  (h, addheader fastbuf h (padmsg (padded r.2.1 - r.2.1) r.1))

def contents (mp : List Blk) : List UInt8 := mp.flatMap Blk.data

/-- The data blocks that other messages see. -/
def sharedBase (mp : List Blk) : List (List UInt8) :=
  (mp.filter Blk.shared).map Blk.base

/-- What a reader makes of a message, stepping by `sbh_totlen`. -/
def readRecords (dp : List UInt8) : Option (List (SbHdr × List UInt8)) :=
  if dp = [] then some []
  else
    let h := SbHdr.read dp
    if sizeofSbHdr + h.msglen ≤ h.totlen ∧ h.totlen ≤ dp.length then
      (readRecords (dp.drop h.totlen)).map
        ((h, (dp.drop sizeofSbHdr).take h.msglen) :: ·)
    else none
termination_by dp.length
decreasing_by
  have := List.length_pos_iff.mpr ‹¬dp = []›
  have onward : 24 + h.msglen ≤ h.totlen := ‹_ ∧ _›.1
  change (dp.drop h.totlen).length < _
  rw [List.length_drop]
  omega

theorem longAt_word {n : Nat} (fits : n < 2 ^ 32) (rest : List UInt8) :
    Pfmod.longAt (word n ++ rest) 0 = n := by
  simp [Pfmod.longAt, Pfmod.shortAt, Pfmod.octetAt, word]
  omega

theorem longAt_behind (n i : Nat) (rest : List UInt8) :
    Pfmod.longAt (word n ++ rest) (i + 4) = Pfmod.longAt rest i := by
  simp [Pfmod.longAt, Pfmod.shortAt, Pfmod.octetAt, word, Nat.add_right_comm _ 4]

theorem read_octets {h : SbHdr} (fits : h.Fits) (rest : List UInt8) :
    SbHdr.read (h.octets ++ rest) = h := by
  simp only [SbHdr.read, SbHdr.octets, List.append_assoc,
    longAt_word fits.origlen]
  rw [show (20 : Nat) = 16 + 4 from rfl, show (16 : Nat) = 12 + 4 from rfl,
    show (12 : Nat) = 8 + 4 from rfl, show (8 : Nat) = 4 + 4 from rfl,
    show (4 : Nat) = 0 + 4 from rfl]
  simp only [longAt_behind, longAt_word fits.msglen, longAt_word fits.totlen,
    longAt_word fits.drops, longAt_word fits.sec, longAt_word fits.usec]

theorem Blk.data_of {b : Blk} {front octets behind : List UInt8}
    (base : b.base = front ++ octets ++ behind) (rptr : b.rptr = front.length)
    (wptr : b.wptr = front.length + octets.length) : b.data = octets := by
  rw [data, base, rptr, wptr, ← List.length_append, List.take_left,
    List.drop_left]

theorem Blk.Sound.front {b : Blk} (sound : b.Sound) :
    b.base.take b.rptr ++ b.data = b.base.take b.wptr := by
  conv => rhs; rw [← List.take_append_drop b.rptr (b.base.take b.wptr)]
  rw [List.take_take, Nat.min_eq_left sound.rptr_le, data]

theorem Blk.Sound.lengths {b : Blk} (sound : b.Sound) :
    (b.base.take b.rptr).length = b.rptr ∧ b.data.length = b.wptr - b.rptr := by
  have := sound.rptr_le.trans sound.wptr_le
  rw [data, List.length_take, List.length_drop, List.length_take,
    Nat.min_eq_left sound.wptr_le]
  omega

theorem Blk.WellFormed.length_data {b : Blk} (well : b.WellFormed) :
    b.data.length = b.dlen := by
  rw [data, dlen, List.length_drop, List.length_take,
    Nat.min_eq_left well.wptr_le]

theorem Blk.Sound.wellFormed {b : Blk} (sound : b.Sound) : b.WellFormed :=
  ⟨sound.rptr_le.trans sound.wptr_le, sound.wptr_le⟩

/-- The octets that fit behind `mlen` others. -/
def snapped (snap mlen : Nat) (octets : List UInt8) : List UInt8 :=
  if snap = 0 then octets else octets.take (snap - mlen)

theorem adjBlock_spec {snap mlen : Nat} {b : Blk} (well : b.WellFormed)
    (below : snap = 0 ∨ mlen ≤ snap) :
    (adjBlock snap mlen b).Sound ∧
      (adjBlock snap mlen b).data = snapped snap mlen b.data ∧
      (snap = 0 ∨ mlen + (adjBlock snap mlen b).dlen ≤ snap) := by
  obtain ⟨inside, limit⟩ := well
  have dlen : b.dlen = b.wptr - b.rptr := rfl
  have room : (adjBlock snap mlen b).wptr - b.rptr =
      if snap = 0 then b.wptr - b.rptr
      else min (snap - mlen) (b.wptr - b.rptr) := by
    simp only [adjBlock]
    split_ifs <;> omega
  have order : b.rptr ≤ (adjBlock snap mlen b).wptr ∧
      (adjBlock snap mlen b).wptr ≤ b.base.length := by
    simp only [adjBlock]
    split_ifs <;> omega
  refine ⟨⟨order.1, order.2⟩, ?_, ?_⟩
  · change (b.base.take (adjBlock snap mlen b).wptr).drop b.rptr = _
    rw [snapped, Blk.data, List.drop_take, List.drop_take, room]
    split
    · rfl
    · rw [List.take_take]
  · change snap = 0 ∨ mlen + ((adjBlock snap mlen b).wptr - b.rptr) ≤ snap
    rw [room]
    split <;> omega

theorem contents_cons (b : Blk) (bs : List Blk) :
    contents (b :: bs) = b.data ++ contents bs := rfl

theorem adjBlocks_spec {snap : Nat} (bs : List Blk)
    (well : ∀ b ∈ bs, b.WellFormed) {mlen olen : Nat}
    (below : snap = 0 ∨ mlen ≤ snap) :
    let r := adjBlocks snap mlen olen bs
    contents r.1 = snapped snap mlen (contents bs) ∧
      r.2.1 = mlen + (contents r.1).length ∧
      r.2.2 = olen + (contents bs).length ∧ (∀ b ∈ r.1, b.Sound) ∧
      (bs ≠ [] → r.1 ≠ []) ∧ sharedBase r.1 = sharedBase bs := by
  induction bs generalizing mlen olen with
  | nil => simp [adjBlocks, contents, snapped]
  | cons b bs ih =>
      have mine := well b List.mem_cons_self
      obtain ⟨sound, octets, within⟩ := adjBlock_spec mine below
      obtain ⟨rest, kept, all, sounds, -, shared⟩ :=
        @ih (fun b member => well b (List.mem_cons_of_mem _ member))
          (mlen + (adjBlock snap mlen b).dlen) (olen + b.dlen) within
      have length := sound.wellFormed.length_data
      simp only [adjBlocks, contents_cons, List.length_append]
      refine ⟨?_, by omega, by rw [all, ← mine.length_data]; omega,
        List.forall_mem_cons.mpr ⟨sound, sounds⟩, nofun, ?_⟩
      case refine_2 =>
        have same : (adjBlock snap mlen b).shared = b.shared := rfl
        unfold sharedBase at *
        rw [List.filter_cons, List.filter_cons, same]
        split
        · exact congrArg (b.base :: ·) shared
        · exact shared
      rw [octets, rest]
      have data : (adjBlock snap mlen b).dlen =
          (snapped snap mlen b.data).length := by rw [← octets, length]
      rw [data]
      unfold snapped
      split
      · rfl
      · rw [List.take_append, List.length_take, mine.length_data]
        congr 2
        omega

/-- Octets are added, and what other messages see stays as it is. -/
structure Padded (pad : Nat) (bs bs' : List Blk) : Prop where
  contents : ∃ tail, tail.length = pad ∧ contents bs' = contents bs ++ tail
  sound : ∀ b ∈ bs', b.Sound
  some : bs' ≠ []
  shared : sharedBase bs' = sharedBase bs

theorem padBlock_padded (pad : Nat) {e : Blk} (sound : e.Sound) :
    Padded pad [e] (padBlock pad e) := by
  obtain ⟨front, length⟩ := sound.lengths
  have order := sound.rptr_le
  unfold padBlock
  split
  case isTrue none =>
    exact ⟨⟨[], none.symm, by simp⟩, by simpa using sound, nofun, rfl⟩
  split
  case isFalse =>
    refine ⟨⟨List.replicate pad 0, by simp, ?_⟩, ?_, nofun, ?_⟩
    · simp [contents, Blk.alloc, Blk.data]
    · simpa [Blk.alloc] using ⟨sound, ⟨Nat.zero_le _, by simp⟩⟩
    · cases shared : e.shared <;> simp [sharedBase, Blk.alloc, shared]
  case isTrue room =>
    obtain ⟨tail, padded, base⟩ : ∃ tail : List UInt8, tail.length = pad ∧
        (if e.shared then e.base
          else e.base.take e.wptr ++ List.replicate pad 0 ++
            e.base.drop (e.wptr + pad)) =
          e.base.take e.wptr ++ tail ++ e.base.drop (e.wptr + pad) := by
      cases e.shared with
      | false => exact ⟨List.replicate pad 0, by simp, rfl⟩
      | true =>
          refine ⟨(e.base.drop e.wptr).take pad, ?_, ?_⟩
          · rw [List.length_take, List.length_drop]
            omega
          · rw [if_pos rfl, ← List.take_add, List.take_append_drop]
    refine ⟨⟨tail, padded, ?_⟩, ?_, nofun, ?_⟩
    · have octets : (Blk.mk (e.base.take e.wptr ++ tail ++
          e.base.drop (e.wptr + pad)) e.rptr (e.wptr + pad) e.shared).data =
            e.data ++ tail :=
        @Blk.data_of _ (e.base.take e.rptr) _ (e.base.drop (e.wptr + pad))
          (by rw [← sound.front, List.append_assoc (List.take _ _)])
          front.symm (by rw [List.length_append, front]; simp only; omega)
      rw [base, contents_cons, contents_cons, octets, List.append_assoc,
        List.append_assoc]
      exact congrArg (e.data ++ ·) (List.append_nil tail)
    · rw [List.forall_mem_singleton, base]
      refine ⟨by simp only; omega, ?_⟩
      have := sound.wptr_le
      simp only [List.length_append, List.length_take, List.length_drop]
      omega
    · cases shared : e.shared <;> simp [sharedBase, shared]

theorem padmsg_padded (pad : Nat) {bs : List Blk} (some : bs ≠ [])
    (sound : ∀ b ∈ bs, b.Sound) : Padded pad bs (padmsg pad bs) := by
  induction bs with
  | nil => exact absurd rfl some
  | cons e bs ih =>
      have mine := sound e List.mem_cons_self
      cases bs with
      | nil => exact padBlock_padded pad mine
      | cons b bs =>
          obtain ⟨⟨tail, length, octets⟩, sounds, -, shared⟩ := ih nofun
            fun b member => sound b (List.mem_cons_of_mem _ member)
          refine ⟨⟨tail, length, ?_⟩, List.forall_mem_cons.mpr ⟨mine, sounds⟩,
            nofun, ?_⟩
          · rw [padmsg, contents_cons, octets, contents_cons e, List.append_assoc]
          · unfold sharedBase at *
            rw [padmsg, List.filter_cons, List.filter_cons]
            split <;> simp [shared]

theorem length_octets (h : SbHdr) : h.octets.length = sizeofSbHdr := rfl

theorem addheader_contents (fastbuf : Nat) (h : SbHdr) {bs : List Blk}
    (some : bs ≠ []) (sound : ∀ b ∈ bs, b.Sound) :
    contents (addheader fastbuf h bs) = h.octets ++ contents bs ∧
      sharedBase (addheader fastbuf h bs) = sharedBase bs := by
  obtain ⟨b, bs, rfl⟩ := List.exists_cons_of_ne_nil some
  have mine := sound b List.mem_cons_self
  obtain ⟨front, length⟩ := mine.lengths
  have order := mine.rptr_le
  have header := length_octets h
  rw [addheader]
  split
  case isTrue ahead =>
    simp only [Bool.and_eq_true, Bool.not_eq_true', decide_eq_true_eq] at ahead
    obtain ⟨shared, room⟩ := ahead
    refine ⟨?_, by simp [sharedBase, shared]⟩
    rw [contents_cons, contents_cons, ← List.append_assoc]
    congr 1
    have ahead : (b.base.take (b.rptr - sizeofSbHdr)).length =
        b.rptr - sizeofSbHdr := by
      have := mine.wptr_le
      rw [List.length_take]
      omega
    have behind : b.base.drop b.rptr = b.data ++ b.base.drop b.wptr := by
      conv => lhs; rw [← List.take_append_drop b.wptr b.base, ← mine.front]
      rw [List.append_assoc]
      exact List.drop_left' front
    refine @Blk.data_of _ (b.base.take (b.rptr - sizeofSbHdr)) _
      (b.base.drop b.wptr) ?_ ahead.symm ?_
    · simp only [behind, List.append_assoc]
    · rw [List.length_append, header, length, ahead]
      simp only
      omega
  split
  case isTrue moved =>
    simp only [Bool.and_eq_true, Bool.not_eq_true', decide_eq_true_eq] at moved
    obtain ⟨⟨shared, -⟩, room⟩ := moved
    refine ⟨?_, by simp [sharedBase, shared]⟩
    rw [contents_cons, contents_cons, ← List.append_assoc]
    congr 1
    exact @Blk.data_of _ [] _ _ rfl rfl (by
      rw [List.length_append, header, length]
      simp [Blk.dlen])
  case isFalse =>
    refine ⟨?_, by simp [sharedBase, Blk.alloc]⟩
    rw [contents_cons]
    simp [Blk.alloc, Blk.data]

theorem padded_ge (mlen : Nat) : mlen ≤ padded mlen := by
  unfold padded
  omega

theorem Packet.record_contents (fastbuf snap : Nat) {p : Packet}
    (some : p.blocks ≠ []) (well : ∀ b ∈ p.blocks, b.WellFormed) :
    (p.record fastbuf snap).1.origlen = (contents p.blocks).length ∧
      (p.record fastbuf snap).1.msglen =
        (snapped snap 0 (contents p.blocks)).length ∧
      sharedBase (p.record fastbuf snap).2 = sharedBase p.blocks ∧
      ∃ tail, contents (p.record fastbuf snap).2 =
          (p.record fastbuf snap).1.octets ++
            snapped snap 0 (contents p.blocks) ++ tail ∧
        sizeofSbHdr + (p.record fastbuf snap).1.msglen + tail.length =
          (p.record fastbuf snap).1.totlen := by
  obtain ⟨octets, kept, all, sounds, more, shared⟩ :=
    @adjBlocks_spec snap p.blocks well 0 0 (by omega)
  have padding := padmsg_padded (padded (adjBlocks snap 0 0 p.blocks).2.1 -
    (adjBlocks snap 0 0 p.blocks).2.1) (more some) sounds
  obtain ⟨tail, length, padmsg⟩ := padding.contents
  obtain ⟨header, same⟩ := addheader_contents fastbuf
    (p.record fastbuf snap).1 padding.some padding.sound
  rw [Nat.zero_add] at kept all
  have ge := padded_ge (adjBlocks snap 0 0 p.blocks).2.1
  refine ⟨all, by rw [← octets]; exact kept,
    same.trans (padding.shared.trans shared), tail, ?_, ?_⟩
  · refine header.trans ?_
    rw [padmsg, octets, List.append_assoc]
  · rw [length]
    simp only [record]
    omega

theorem readRecords_cons {h : SbHdr} (fits : h.Fits)
    {octets tail : List UInt8} (length : octets.length = h.msglen)
    (total : sizeofSbHdr + h.msglen + tail.length = h.totlen)
    (rest : List UInt8) :
    readRecords (h.octets ++ octets ++ tail ++ rest) =
      (readRecords rest).map ((h, octets) :: ·) := by
  have header := length_octets h
  have record : (h.octets ++ octets ++ tail).length = h.totlen := by
    simp only [List.length_append, header, length]
    exact total
  have read : SbHdr.read (h.octets ++ octets ++ tail ++ rest) = h := by
    rw [List.append_assoc, List.append_assoc]
    exact read_octets fits _
  have some : h.octets ++ octets ++ tail ++ rest ≠ [] := by
    intro none
    have := congrArg List.length none
    simp [header, sizeofSbHdr] at this
  rw [readRecords, if_neg some, read, if_pos, ← record, List.drop_left]
  · congr 3
    rw [List.append_assoc, List.append_assoc, ← header, List.drop_left, ← length,
      List.take_left]
  · rw [List.length_append, record]
    omega

structure Packet.Proper (fastbuf snap : Nat) (p : Packet) : Prop where
  some : p.blocks ≠ []
  well : ∀ b ∈ p.blocks, b.WellFormed
  fits : (p.record fastbuf snap).1.Fits

/-- A chunk reads back as its packets in order, each with its length and with the
octets up to the snapshot length, and no octet of a data block that another
message sees has been changed. -/
theorem chunk_reads_back (fastbuf snap : Nat) {packets : List Packet}
    (proper : ∀ p ∈ packets, p.Proper fastbuf snap) :
    readRecords (contents (packets.flatMap fun p =>
        (p.record fastbuf snap).2)) =
      some (packets.map fun p => ((p.record fastbuf snap).1,
        snapped snap 0 (contents p.blocks))) ∧
      ∀ p ∈ packets,
        (p.record fastbuf snap).1.origlen = (contents p.blocks).length ∧
        (p.record fastbuf snap).1.msglen =
          (snapped snap 0 (contents p.blocks)).length ∧
        sharedBase (p.record fastbuf snap).2 = sharedBase p.blocks := by
  refine ⟨?_, fun p member => ?_⟩
  case refine_2 =>
    obtain ⟨origlen, msglen, shared, -⟩ := Packet.record_contents fastbuf snap
      (proper p member).some (proper p member).well
    exact ⟨origlen, msglen, shared⟩
  induction packets with
  | nil =>
      rw [readRecords]
      rfl
  | cons p packets ih =>
      obtain ⟨mine, others⟩ := List.forall_mem_cons.mp proper
      obtain ⟨-, msglen, -, tail, octets, total⟩ :=
        Packet.record_contents fastbuf snap mine.some mine.well
      rw [List.flatMap_cons, contents, List.flatMap_append]
      change readRecords (contents (p.record fastbuf snap).2 ++ contents _) = _
      rw [octets, readRecords_cons mine.fits msglen.symm total,
        ih others]
      rfl

theorem chunk_reads_back_shared :
    readRecords (contents ([Packet.mk [⟨[1, 2, 3, 4], 1, 3, true⟩] 0 5 6].flatMap
        fun p => (p.record 128 1).2)) =
      some ([Packet.mk [⟨[1, 2, 3, 4], 1, 3, true⟩] 0 5 6].map fun p =>
        ((p.record 128 1).1, snapped 1 0 (contents p.blocks))) :=
  (@chunk_reads_back 128 1 [Packet.mk [⟨[1, 2, 3, 4], 1, 3, true⟩] 0 5 6] (by
    simp only [List.mem_singleton, forall_eq]
    refine ⟨nofun, ?_, by constructor <;> decide⟩
    simp only [List.mem_singleton, forall_eq]
    constructor <;> decide)).1

end OpenSS7.Bufmod
