import OpenSS7.Mblk.Plain

/-!
Whether `msgpullup` keeps what a message holds.
-/

namespace OpenSS7.Mblk

namespace Heap

/-- The first loop of `msgpullup`: whether it leaves for `copy_len`, and the
octets found up to there. -/
def leadSize (h : Heap) (len : Int) (type : Nat) :
    Nat → Option Nat → Int → Bool × Int
  | 0, _, size => (false, size)
  | _, none, size => (false, size)
  | fuel + 1, some b, size =>
      if h.blen b ≤ 0 then leadSize h len type fuel (h.blk b).bCont size
      else if h.typeOf b ≠ type then (false, size)
      else if size + h.blen b > len ∧ 0 < len then (true, size + h.blen b)
      else leadSize h len type fuel (h.blk b).bCont (size + h.blen b)

def leading (h : Heap) (type : Nat) (bs : List Nat) : List Nat :=
  bs.takeWhile fun b => decide (h.blen b ≤ 0 ∨ h.typeOf b = type)

def lead (h : Heap) (mp : Nat) : Nat :=
  h.room (h.leading (h.typeOf mp) (h.blocks mp))

end Heap

namespace Image

/-- The second loop of `msgpullup`, from the block `b` on: octets are copied
into `msg` until `len` have been, and a block that has more is copied behind
it. The answer is `none` when that fails, and otherwise the last block so far
and the block at which the loop was left. -/
def pullCopies (cfg : Config) (memory : Memory) (msg type : Nat) :
    Nat → Image → Option Nat → Int → Option (Nat × Option Nat) × Image
  | 0, s, b, _ => (some (msg, b), s)
  | _, s, none, _ => (some (msg, none), s)
  | fuel + 1, s, some b, len =>
      let blen := s.heap.blen b
      let db := (s.heap.blk msg).bDatap.getD msg
      if blen ≤ 0 then
        pullCopies cfg memory msg type fuel s (s.heap.blk b).bCont len
      else if s.heap.typeOf b ≠ type then (some (msg, some b), s)
      else if blen - len ≤ 0 then
        let s := s.bcopy b db (s.heap.blk msg).bWptr blen.toNat
        let s : Image := { s with
          heap := s.heap.modify msg fun md =>
            { md with bWptr := md.bWptr + blen } }
        pullCopies cfg memory msg type fuel s (s.heap.blk b).bCont (len - blen)
      else
        let s := s.bcopy b db (s.heap.blk msg).bWptr len.toNat
        let s : Image := { s with
          heap := s.heap.modify msg fun md =>
            { md with bWptr := md.bWptr + len } }
        match s.copyb cfg memory b with
        | (none, s) => (none, s)
        | (some c, s) =>
            let h := s.heap.append (some msg) c
            let h := h.modify ((h.blk c).bDatap.getD c) fun md =>
              { md with dbType := h.typeOf b }
            let h := h.modify c fun md =>
              { md with bRptr := md.bRptr + (blen - len) }
            (some (c, (h.blk b).bCont), { s with heap := h })

/-- The label `error`: the copy is freed, and answered. -/
def pullError (s : Image) (msg : Option Nat) : Option Nat × Image :=
  (msg, { s with heap := s.heap.freemsg s.heap.made msg })

/-- The label `copy_rest`: what is left of the message from `b` on is copied
behind `last`. -/
def copyRest (s : Image) (cfg : Config) (memory : Nat → Memory)
    (msg last b : Option Nat) : Option Nat × Image :=
  match b with
  | none => (msg, s)
  | some b =>
      match s.copymsg cfg memory b with
      | (none, s) => s.pullError msg
      | (some c, s) =>
          (msg.or (some c), { s with heap := s.heap.append last c })

/-- The label `copy_len`. The loop starts from the block just allocated. -/
def copyLen (s : Image) (cfg : Config) (memory : Nat → Memory) (type : Nat)
    (len : Int) : Option Nat × Image :=
  match s.heap.allocb cfg (memory 0) len.toNat false with
  | (none, h) => (none, { s with heap := h })
  | (some msg, h) =>
      match pullCopies cfg (memory 1) msg type h.made { s with heap := h }
          (some msg) len with
      | (none, s) => s.pullError (some msg)
      | (some (last, b), s) =>
          s.copyRest cfg (fun k => memory (k + 2)) (some msg) (some last) b

def msgpullup (s : Image) (cfg : Config) (memory : Nat → Memory) (mp : Nat)
    (length : Int) : Option Nat × Image :=
  if length = 0 then s.copyRest cfg memory none none none
  else
    let type := s.heap.typeOf mp
    let (copy, size) := s.heap.leadSize length type s.heap.made (some mp) 0
    if copy then s.copyLen cfg memory type length
    else if size ≤ length then (none, s)
    else s.copyLen cfg memory type (if length < 0 then size else length)

def typed (s : Image) (bs : List Nat) : List (UInt8 × Nat) :=
  bs.flatMap fun b => (s.heap.octets s.store b).map fun octet =>
    (octet, s.heap.typeOf b)

def wanted (s : Image) (mp : Nat) (length : Int) : Nat :=
  if length = -1 then s.heap.lead mp else length.toNat

def Granted (s : Image) (cfg : Config) (memory : Memory) (mp : Nat)
    (length : Int) : Prop :=
  (s.heap.allocb cfg memory (s.wanted mp length) false).1 ≠ none

instance (s : Image) (cfg : Config) (memory : Memory) (mp : Nat)
    (length : Int) : Decidable (s.Granted cfg memory mp length) :=
  inferInstanceAs (Decidable (_ ≠ _))

/-- `msg` is a message of other blocks that holds what `mp` holds, with so many
octets in its first block. -/
structure PulledUp (s s' : Image) (live : List Nat) (mp msg : Nat)
    (new : List Nat) (count : Nat) : Prop where
  linked : s'.heap.IsChain (some msg) new
  apart : ∀ c ∈ new, c ∉ live
  typed : s'.typed new = s.typed (s.heap.blocks mp)
  type : s'.heap.typeOf msg = s.heap.typeOf mp
  first : count ≤ (s'.heap.blen msg).toNat

/-- `msgpullup` answers such a message if there are the octets and a block for
them, and nothing otherwise; the message itself stays as it is. -/
structure PullsUp (s : Image) (cfg : Config) (memory : Nat → Memory)
    (live : List Nat) (mp : Nat) (length : Int) : Prop where
  pulled : length ≤ s.heap.lead mp → s.Granted cfg (memory 0) mp length →
    ∃ msg new, (s.msgpullup cfg memory mp length).1 = some msg ∧
      s.PulledUp (s.msgpullup cfg memory mp length).2 live mp msg new
        (s.wanted mp length)
  refused : ¬ (length ≤ s.heap.lead mp ∧
      s.Granted cfg (memory 0) mp length) →
    (s.msgpullup cfg memory mp length).1 = none
  same : ∀ b ∈ s.heap.blocks mp,
    (s.msgpullup cfg memory mp length).2.face b = s.face b ∧
      ((s.msgpullup cfg memory mp length).2.heap.blk b).bCont =
        (s.heap.blk b).bCont

end Image

open Heap

section Lead

variable {h : Heap} {start : Option Nat} {bs : List Nat} {len : Int}
  {type fuel : Nat}

theorem leadSize_eq_pullSize (some : len ≠ 0) (size : Int) :
    h.leadSize len type fuel start size = h.pullSize len type fuel start size := by
  induction fuel generalizing start size with
  | zero => rfl
  | succ fuel ih =>
      cases start with
      | none => rfl
      | some b =>
          have guard : 0 < len ↔ 0 ≤ len := by omega
          simp only [leadSize, pullSize, guard, ih]

theorem pullSize_spec (linked : h.IsChain start bs) (enough : bs.length ≤ fuel)
    {size : Int} (below : 0 ≤ len → size ≤ len) :
    (0 ≤ len ∧ len < size + h.room (h.leading type bs) →
        ∃ count, h.pullSize len type fuel start size = (true, count) ∧
          len < count ∧ count ≤ size + h.room (h.leading type bs)) ∧
      (¬ (0 ≤ len ∧ len < size + h.room (h.leading type bs)) →
        h.pullSize len type fuel start size =
          (false, size + h.room (h.leading type bs))) := by
  induction bs generalizing start fuel size with
  | nil =>
      rw [linked]
      have out : h.pullSize len type fuel none size = (false, size) := by
        cases fuel <;> rfl
      have none : (size + h.room (h.leading type []) : Int) = size :=
        Int.add_zero size
      rw [out, none]
      exact ⟨fun both => absurd (below both.1) (Int.not_le.mpr both.2),
        fun _ => rfl⟩
  | cons b rest ih =>
      cases fuel with
      | zero => exact absurd enough (Nat.not_succ_le_zero _)
      | succ fuel =>
          have shorter := Nat.le_of_succ_le_succ enough
          rw [linked.1, pullSize]
          by_cases empty : h.blen b ≤ 0
          · have first : h.leading type (b :: rest) =
                b :: h.leading type rest := by
              simp [leading, empty]
            have none : (h.blen b).toNat = 0 := Int.toNat_of_nonpos empty
            rw [if_pos empty, first, room_cons, none, Nat.zero_add]
            exact ih linked.2 shorter below
          · rw [if_neg empty]
            by_cases same : h.typeOf b = type
            · have first : h.leading type (b :: rest) =
                  b :: h.leading type rest := by
                simp [leading, same]
              have grown : size + ((h.blen b).toNat +
                  h.room (h.leading type rest) : Nat) =
                  size + h.blen b + h.room (h.leading type rest) := by
                omega
              rw [if_neg (not_not_intro same), first, room_cons, grown]
              split
              case isTrue leaves =>
                refine ⟨fun _ => ⟨_, rfl, leaves.1, by omega⟩, fun none => ?_⟩
                exact absurd ⟨leaves.2, by omega⟩ none
              case isFalse stays =>
                exact ih linked.2 shorter fun positive => by
                  by_contra above
                  exact stays ⟨by omega, positive⟩
            · have none : h.leading type (b :: rest) = [] := by
                simp [leading, same, empty]
              have zero : (size + h.room ([] : List Nat) : Int) = size :=
                Int.add_zero size
              rw [if_pos same, none, zero]
              exact ⟨fun both => absurd (below both.1) (Int.not_le.mpr both.2),
                fun _ => rfl⟩

theorem room_leading_le : h.room (h.leading type bs) ≤ h.room bs := by
  have whole := @room_append h (h.leading type bs)
    (bs.dropWhile fun b => decide (h.blen b ≤ 0 ∨ h.typeOf b = type))
  rw [leading, List.takeWhile_append_dropWhile] at whole
  rw [whole]
  exact Nat.le_add_right ..

end Lead

section Msgpullup

variable {s s' : Image} {cfg : Config} {live : List Nat}
  {extra : Nat → Resource → Nat} {memory : Nat → Memory} {mp : Nat}
  {length : Int}

theorem length_typed (bs : List Nat) :
    (s.typed bs).length = s.heap.room bs := by
  induction bs with
  | nil => rfl
  | cons b rest ih =>
      have whole : s.typed (b :: rest) = (s.heap.octets s.store b).map
          (fun octet => (octet, s.heap.typeOf b)) ++ s.typed rest := by
        simp [Image.typed]
      rw [whole, room_cons, List.length_append, ih, List.length_map,
        length_octets]

theorem copyLen_refused (kept : Kept s.heap (.rest live extra))
    {type : Nat} {len : Int}
    (refused : (s.heap.allocb cfg (memory 0) len.toNat false).1 = none) :
    (s.copyLen cfg memory type len).1 = none ∧
      (s.copyLen cfg memory type len).2.heap.blk = s.heap.blk ∧
      (s.copyLen cfg memory type len).2.store = s.store ∧
      (s.copyLen cfg memory type len).2.attr = s.attr := by
  rcases @allocb_cases cfg _ _ (memory 0) _ len.toNat kept with
    ⟨h, result, blk, _, _⟩ | ⟨c, h, found, _⟩
  · simp only [Image.copyLen, result]
    exact ⟨trivial, blk, trivial, trivial⟩
  · rw [found] at refused
    cases refused

theorem copyLen_granted (kept : Kept s.heap (.rest live extra))
    {type : Nat} {len : Int}
    (granted : (s.heap.allocb cfg (memory 0) len.toNat false).1 ≠ none) :
    ∃ msg h, s.heap.allocb cfg (memory 0) len.toNat false = (some msg, h) ∧
      Allocated s.heap msg h ∧
      s.copyLen cfg memory type len = (some msg, { s with heap := h }) := by
  rcases @allocb_cases cfg _ _ (memory 0) _ len.toNat kept with
    ⟨h, result, _⟩ | ⟨msg, h, found, alloc⟩
  · exact absurd (by rw [result]) granted
  · refine ⟨msg, h, found, alloc, ?_⟩
    have empty : h.blen msg ≤ 0 := by
      rw [blen, alloc.empty]
      exact Int.le_of_eq (Int.sub_self _)
    have made : h.made ≠ 0 := fun none =>
      Nat.not_lt_zero msg (none ▸ ((alloc.out msg).mpr (Or.inl rfl)).1)
    obtain ⟨fuel, more⟩ := Nat.exists_eq_succ_of_ne_zero made
    have loop : Image.pullCopies cfg (memory 1) msg type h.made
        { s with heap := h } (some msg) len =
          (some (msg, none), { s with heap := h }) := by
      rw [more, Image.pullCopies]
      simp only [if_pos empty, alloc.cont]
      cases fuel <;> rfl
    simp only [Image.copyLen, found, loop, Image.copyRest]

theorem pullsUp_none_iff (kept : Kept s.heap (.rest live extra))
    (message : IsMessage s.heap live mp)
    (none : (s.msgpullup cfg memory mp length).1 = none)
    (blk : (s.msgpullup cfg memory mp length).2.heap.blk = s.heap.blk)
    (store : (s.msgpullup cfg memory mp length).2.store = s.store)
    (attr : (s.msgpullup cfg memory mp length).2.attr = s.attr) :
    s.PullsUp cfg memory live mp length ↔
      ¬ (length ≤ s.heap.lead mp ∧ s.Granted cfg (memory 0) mp length) := by
  constructor
  · rintro pulls ⟨enough, granted⟩
    obtain ⟨msg, new, some, _⟩ := pulls.pulled enough granted
    rw [none] at some
    cases some
  · intro undue
    refine ⟨fun enough granted => absurd ⟨enough, granted⟩ undue,
      fun _ => none, fun b _ => ⟨?_, by rw [blk]⟩⟩
    apply face_congr
    · rw [blk]
    · exact fun d _ => by rw [blk]
    · exact fun d _ => by rw [store]
    · rw [store]
    · rw [attr]

theorem pullsUp_empty_iff (kept : Kept s.heap (.rest live extra))
    (message : IsMessage s.heap live mp) {msg : Nat} {h : Heap}
    (alloc : Allocated s.heap msg h)
    (out : s.msgpullup cfg memory mp length = (some msg, { s with heap := h }))
    (due : length ≤ s.heap.lead mp ∧ s.Granted cfg (memory 0) mp length)
    (least : s.wanted mp length ≤ s.heap.lead mp) :
    s.PullsUp cfg memory live mp length ↔
      s.heap.room (s.heap.blocks mp) = 0 ∧
        s.heap.typeOf mp = (h.blk msg).dbType := by
  have type : h.typeOf msg = (h.blk msg).dbType := by
    rw [typeOf, alloc.datap]
    rfl
  have empty : (h.blen msg).toNat = 0 := by
    rw [blen, alloc.empty, Int.sub_self]
    rfl
  have bare : h.room [msg] = 0 := by
    rw [room_cons, empty]
    rfl
  constructor
  · intro pulls
    obtain ⟨msg', new, some, pulled⟩ := pulls.pulled due.1 due.2
    rw [out] at some pulled
    cases some
    have linked : h.IsChain (some msg) new := pulled.linked
    have single : new = [msg] := by
      cases new with
      | nil => cases linked
      | cons b rest =>
          obtain ⟨first, linked⟩ := linked
          cases first
          rw [alloc.cont] at linked
          cases rest with
          | nil => rfl
          | cons c _ => cases linked.1
    have lengths := congrArg List.length pulled.typed
    rw [length_typed, length_typed, single] at lengths
    exact ⟨lengths.symm.trans bare, pulled.type.symm.trans type⟩
  · rintro ⟨none, same⟩
    have typed : s.typed (s.heap.blocks mp) = [] := by
      rw [← List.length_eq_zero_iff, length_typed, none]
    refine ⟨fun _ _ => ⟨msg, [msg], by rw [out], ?_⟩,
      fun undue => absurd due undue, fun b member => ?_⟩
    · rw [out]
      refine ⟨⟨rfl, alloc.cont⟩, ?_, ?_, type.trans same.symm, ?_⟩
      · intro c member original
        rw [List.mem_singleton.mp member] at original
        exact alloc.idle (kept.out_of_live original)
      · rw [typed, ← List.length_eq_zero_iff, length_typed]
        exact bare
      · have all : s.heap.lead mp ≤ s.heap.room (s.heap.blocks mp) :=
          room_leading_le
        omega
    · have original := message.2.2 b member
      have apart {i : Nat} (taken : s.heap.Out i) : i ≠ msg := fun same =>
        alloc.idle (same ▸ taken)
      have own := alloc.others b (apart (kept.out_of_live original))
      rw [out]
      refine ⟨face_congr own ?_ (fun _ _ => rfl) rfl rfl, by
        simp only [own]⟩
      exact fun d points =>
        alloc.others d (apart (kept.out_of_datap original points))

/-- Nothing is ever pulled up: the claim holds of `msgpullup` where nothing is
to be answered, and where an empty block will do. -/
theorem msgpullup_iff (kept : Kept s.heap (.rest live extra))
    (plain : s.heap.Plain) (message : IsMessage s.heap live mp)
    (bounded : -1 ≤ length) :
    s.PullsUp cfg memory live mp length ↔
      ¬ s.Granted cfg (memory 0) mp length ∨ s.heap.lead mp < length ∨
        (length = -1 ∧ s.heap.room (s.heap.blocks mp) = 0 ∧
          s.heap.typeOf mp = MData) := by
  have pulls {len : Int} (wanted : s.wanted mp length = len.toNat)
      (enough : length ≤ s.heap.lead mp) (least : len ≤ s.heap.lead mp)
      (all : s.heap.room (s.heap.blocks mp) = 0 → length = -1)
      (out : s.msgpullup cfg memory mp length =
        s.copyLen cfg memory (s.heap.typeOf mp) len) :
      s.PullsUp cfg memory live mp length ↔
        ¬ s.Granted cfg (memory 0) mp length ∨ s.heap.lead mp < length ∨
          (length = -1 ∧ s.heap.room (s.heap.blocks mp) = 0 ∧
            s.heap.typeOf mp = MData) := by
    by_cases granted : s.Granted cfg (memory 0) mp length
    · have given := granted
      rw [Image.Granted, wanted] at given
      obtain ⟨msg, h, found, alloc, result⟩ :=
        @copyLen_granted s cfg live extra memory kept (s.heap.typeOf mp) len
          given
      rw [pullsUp_empty_iff kept message alloc (out.trans result)
        ⟨enough, granted⟩ (by omega), plain.allocb_type kept found]
      have first : ¬ s.heap.lead mp < length := Int.not_lt.mpr enough
      simp only [granted, not_true_eq_false, first, false_or]
      exact ⟨fun both => ⟨all both.1, both⟩, And.right⟩
    · have refused := granted
      rw [Image.Granted, wanted] at refused
      obtain ⟨none, blk, store, attr⟩ :=
        @copyLen_refused s cfg live extra memory kept (s.heap.typeOf mp) len
          (not_not.mp refused)
      rw [← out] at none blk store attr
      rw [pullsUp_none_iff kept message none blk store attr]
      exact iff_of_true (fun due => granted due.2) (Or.inl granted)
  have nothing (out : s.msgpullup cfg memory mp length = (none, s)) :=
    @pullsUp_none_iff s cfg live extra memory mp length kept message
      (by rw [out]) (by rw [out]) (by rw [out]) (by rw [out])
  by_cases zero : length = 0
  · rw [nothing (by rw [Image.msgpullup, if_pos zero, Image.copyRest])]
    subst zero
    constructor
    · exact fun undue => Or.inl fun granted =>
        undue ⟨Int.natCast_nonneg _, granted⟩
    · rintro (refused | few | ⟨negative, _⟩)
      · exact fun due => refused due.2
      · exact absurd few (Int.not_lt.mpr (Int.natCast_nonneg _))
      · cases negative
  · obtain ⟨more, less⟩ := @pullSize_spec s.heap (some mp) _ length
      (s.heap.typeOf mp) _ message.1 length_blocks_le 0 id
    have lead : s.heap.room (s.heap.leading (s.heap.typeOf mp)
        (s.heap.blocks mp)) = s.heap.lead mp := rfl
    rw [← leadSize_eq_pullSize zero, Int.zero_add, lead] at more less
    have all : s.heap.lead mp ≤ s.heap.room (s.heap.blocks mp) :=
      room_leading_le
    by_cases negative : length = -1
    · have found := less fun both => by omega
      refine @pulls (s.heap.lead mp) ?_ ?_ ?_ ?_ ?_
      · rw [Image.wanted, if_pos negative]
        rfl
      · omega
      · exact Int.le_refl _
      · exact fun _ => negative
      · rw [Image.msgpullup, if_neg zero]
        simp only [found, Bool.false_eq_true, if_false]
        rw [if_neg (by omega), if_pos (by omega)]
    · by_cases less' : length < s.heap.lead mp
      · obtain ⟨count, found, _⟩ := more ⟨by omega, less'⟩
        refine @pulls length ?_ ?_ ?_ ?_ ?_
        · rw [Image.wanted, if_neg negative]
        · omega
        · omega
        · intro none
          omega
        · rw [Image.msgpullup, if_neg zero]
          simp only [found, if_true]
      · have found := less fun both => less' both.2
        have out : s.msgpullup cfg memory mp length = (none, s) := by
          rw [Image.msgpullup, if_neg zero]
          simp only [found, Bool.false_eq_true, if_false]
          rw [if_pos (by omega)]
        rw [nothing out]
        constructor
        · intro undue
          by_cases few : s.heap.lead mp < length
          · exact Or.inr (Or.inl few)
          · exact Or.inl fun granted => undue ⟨by omega, granted⟩
        · rintro (refused | few | ⟨impossible, _⟩)
          · exact fun due => refused due.2
          · exact fun due => absurd few (Int.not_lt.mpr due.1)
          · exact absurd impossible negative

theorem msgpullup_few :
    (twoBlocks [.constructed 3000]).image.PullsUp ⟨128, 64⟩
      (fun _ => ⟨none, none⟩) [1, 0] 0 5 :=
  (msgpullup_iff (s := (twoBlocks _).image) (twoBlocks_kept _)
    (twoBlocks_plain _) (by decide +kernel) (by decide)).mpr
    (by decide +kernel)

theorem msgpullup_loses_the_message :
    ¬ ∀ (s : Image) (cfg : Config) (memory : Nat → Memory) (live : List Nat)
        (mp : Nat) (length : Int), Kept s.heap (.rest live fun _ _ => 0) →
      s.heap.Plain → IsMessage s.heap live mp → -1 ≤ length →
        s.PullsUp cfg memory live mp length := by
  intro claim
  have kept := twoBlocks_kept [.constructed 3000]
  have plain := twoBlocks_plain [.constructed 3000]
  have message : IsMessage (twoBlocks [.constructed 3000]).heap
      (twoBlocks [.constructed 3000]).live 0 := by decide +kernel
  have pulls := claim (twoBlocks [.constructed 3000]).image ⟨128, 64⟩
    (fun _ => ⟨none, none⟩) _ 0 (-1) kept plain message (by decide)
  have met := (msgpullup_iff kept plain message (by decide)).mp pulls
  exact absurd met (by decide +kernel)

end Msgpullup

end OpenSS7.Mblk
