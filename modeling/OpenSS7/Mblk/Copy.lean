import OpenSS7.Mblk.Buffers
import OpenSS7.Mblk.Contents

/-!
Copying message blocks and messages, with what they hold.
-/

namespace OpenSS7.Mblk

structure Attr where
  bBand : Nat
  bFlag : Nat
  bCsum : Nat
deriving DecidableEq

/-- A heap with what its blocks hold; `attr` is about blocks in use. -/
structure Image where
  heap : Heap
  store : Store
  attr : Nat → Attr

namespace Image

def face (s : Image) (b : Nat) : List UInt8 × Nat × Attr :=
  (s.heap.octets s.store b, s.heap.typeOf b, s.attr b)

/-- `bcopy` of `size` octets from the read pointer of a block to the address
`dest` in the buffer of the data block `db`. -/
def bcopy (s : Image) (b db : Nat) (dest : Addr) (size : Nat) : Image :=
  let source := s.store ((s.heap.blk b).bDatap.getD b)
  { s with
    store := Function.update s.store db fun a =>
      if dest ≤ a ∧ a < dest + size then
        source ((s.heap.blk b).bRptr + (a - dest))
      else s.store db a }

def copyb (s : Image) (cfg : Config) (memory : Memory) (mp : Nat) :
    Option Nat × Image :=
  let size := (s.heap.blen mp).toNat
  match s.heap.allocb cfg memory size false with
  | (none, h) => (none, { s with heap := h })
  | (some b, h) =>
      let s : Image := { s with heap := h }
      let db := (h.blk b).bDatap.getD b
      let s := s.bcopy mp db (h.blk b).bWptr size
      let h := h.modify b fun md => { md with bWptr := md.bWptr + size }
      let h := h.modify db fun md => { md with dbType := h.typeOf mp }
      (some b,
        { s with heap := h, attr := Function.update s.attr b (s.attr mp) })

/-- The loop of `copymsg`: `b` is the block to copy next, `msg` the copy so far
and `last` its last block; `memory` gives the answers from the `k`-th copy on.
When a block cannot be copied it is `mp` that is freed. -/
def copymsgFrom (cfg : Config) (memory : Nat → Memory) (freeFuel mp : Nat) :
    Nat → Nat → Image → Option Nat → Option Nat → Option Nat →
      Option Nat × Image
  | 0, _, s, _, msg, _ => (msg, s)
  | _, _, s, none, msg, _ => (msg, s)
  | fuel + 1, k, s, some b, msg, last =>
      match s.copyb cfg (memory k) b with
      | (none, s) =>
          (none, { s with heap := s.heap.freemsg freeFuel (some mp) })
      | (some c, s) =>
          let s : Image := { s with heap := s.heap.append last c }
          copymsgFrom cfg memory freeFuel mp fuel (k + 1) s
            (s.heap.blk b).bCont (msg.or (some c)) (some c)

def copymsg (s : Image) (cfg : Config) (memory : Nat → Memory) (mp : Nat) :
    Option Nat × Image :=
  copymsgFrom cfg memory s.heap.made mp s.heap.made 0 s (some mp) none none

def AllCopied (cfg : Config) (memory : Nat → Memory) :
    Nat → Nat → Image → Option Nat → Option Nat → Prop
  | 0, _, _, _, _ => True
  | _, _, _, none, _ => True
  | fuel + 1, k, s, some b, last =>
      match s.copyb cfg (memory k) b with
      | (none, _) => False
      | (some c, s) =>
          let s : Image := { s with heap := s.heap.append last c }
          AllCopied cfg memory fuel (k + 1) s (s.heap.blk b).bCont (some c)

instance decidableAllCopied (cfg : Config) (memory : Nat → Memory) :
    (fuel k : Nat) → (s : Image) → (b last : Option Nat) →
      Decidable (AllCopied cfg memory fuel k s b last)
  | 0, _, _, _, _ => isTrue trivial
  | _ + 1, _, _, none, _ => isTrue trivial
  | fuel + 1, k, s, some b, last => by
      unfold AllCopied
      have := decidableAllCopied cfg memory fuel
      split <;> infer_instance

end Image

open Heap

section Copyb

variable {s : Image} {cfg : Config} {live : List Nat}
  {extra : Nat → Resource → Nat} {memory : Memory} {bp : Nat}

/-- What `allocb` does when it finds a block. -/
structure Allocated (h : Heap) (b : Nat) (h' : Heap) : Prop where
  idle : ¬ h.Out b
  others : ∀ i, i ≠ b → h'.blk i = h.blk i
  out : ∀ i, h'.Out i ↔ i = b ∨ h.Out i
  datap : (h'.blk b).bDatap = some b
  cont : (h'.blk b).bCont = none
  empty : (h'.blk b).bWptr = (h'.blk b).bRptr
  grown : h.made ≤ h'.made

theorem allocb_cases {h : Heap} {size : Nat}
    (kept : Kept h (.rest live extra)) :
    (∃ h', h.allocb cfg memory size false = (none, h') ∧ h'.blk = h.blk ∧
        h'.made = h.made ∧ ∀ i, h'.Out i ↔ h.Out i) ∨
      ∃ b h', h.allocb cfg memory size false = (some b, h') ∧
        Allocated h b h' := by
  have drawn {b : Nat} {h' : Heap} (drawn : Drawn h b h') (base : Addr) :
      Allocated h b (h'.modify b fun md =>
        { md with bRptr := base, bWptr := base, dbBase := base,
                  dbSize := size }) := by
    refine ⟨drawn.idle, ?_, drawn.out, ?_, ?_, ?_, drawn.grown⟩
    · intro i apart
      rw [modify_of_ne apart, drawn.others i apart]
    · rw [modify_self]
      exact drawn.datap
    · rw [modify_self]
      exact drawn.cont
    · rw [modify_self]
  unfold Heap.allocb
  simp only [Bool.false_eq_true, if_false]
  split
  · unfold Heap.allocbFast
    rcases @mdbblockAlloc_cases _ cfg _ kept with
      ⟨grants, none⟩ | ⟨b, h', found, draw⟩
    · rw [none]
      exact Or.inl ⟨_, rfl, rfl, rfl, fun _ => Iff.rfl⟩
    · rw [found]
      exact Or.inr ⟨b, _, rfl, drawn draw _⟩
  · unfold Heap.allocbKmem
    cases memory.kmemAlloc with
    | none => exact Or.inl ⟨h, rfl, rfl, rfl, fun _ => Iff.rfl⟩
    | some base =>
        rcases @mdbblockAlloc_cases _ cfg _ kept with
          ⟨grants, none⟩ | ⟨b, h', found, draw⟩
        · simp only [none]
          exact Or.inl ⟨_, rfl, rfl, rfl, fun _ => Iff.rfl⟩
        · simp only [found]
          obtain ⟨idle, others, out, datap, cont, empty, grown⟩ :=
            drawn draw base
          exact Or.inr ⟨b, _, rfl, idle, others, out, datap, cont, empty, grown⟩

/-- What `copyb` does when it succeeds. -/
structure Copied (s : Image) (bp c : Nat) (s' : Image) : Prop where
  idle : ¬ s.heap.Out c
  blk : ∀ i, i ≠ c → s'.heap.blk i = s.heap.blk i
  store : ∀ i, i ≠ c → s'.store i = s.store i
  attr : ∀ i, i ≠ c → s'.attr i = s.attr i
  out : ∀ i, s'.heap.Out i ↔ i = c ∨ s.heap.Out i
  datap : (s'.heap.blk c).bDatap = some c
  cont : (s'.heap.blk c).bCont = none
  face : s'.face c = s.face bp
  grown : s.heap.made ≤ s'.heap.made

theorem typeOf_congr {h h' : Heap} {b : Nat}
    (same : h'.blk b = h.blk b)
    (source : ∀ d ∈ (h.blk b).bDatap, h'.blk d = h.blk d) :
    h'.typeOf b = h.typeOf b := by
  rw [typeOf, typeOf, same]
  cases points : (h.blk b).bDatap with
  | none => rfl
  | some d =>
      rw [points] at source
      simp only [Option.map_some, source d rfl]

theorem face_congr {s s' : Image} {b : Nat}
    (blk : s'.heap.blk b = s.heap.blk b)
    (source : ∀ d ∈ (s.heap.blk b).bDatap, s'.heap.blk d = s.heap.blk d)
    (store : ∀ d ∈ (s.heap.blk b).bDatap, s'.store d = s.store d)
    (own : s'.store b = s.store b) (attr : s'.attr b = s.attr b) :
    s'.face b = s.face b := by
  have held : s'.store ((s.heap.blk b).bDatap.getD b) =
      s.store ((s.heap.blk b).bDatap.getD b) := by
    cases points : (s.heap.blk b).bDatap with
    | none => exact own
    | some d => exact store d points
  rw [Image.face, Image.face, typeOf_congr blk source, attr]
  simp only [octets, blen, blk, held]

theorem slide_toNat (base size : Int) :
    size.toNat = (base + size.toNat - base).toNat := by
  omega

theorem slide_range (base : Int) {size : Int} {k : Nat}
    (inside : k < size.toNat) :
    base ≤ base + k ∧ base + k < base + size.toNat ∧ base + k - base = k := by
  omega

theorem copyb_cases (kept : Kept s.heap (.rest live extra))
    (member : bp ∈ live) :
    (∃ h, s.copyb cfg memory bp = (none, { s with heap := h }) ∧
        h.blk = s.heap.blk ∧ h.made = s.heap.made ∧
        ∀ i, h.Out i ↔ s.heap.Out i) ∨
      ∃ c s', s.copyb cfg memory bp = (some c, s') ∧ Copied s bp c s' := by
  rcases @allocb_cases cfg _ _ memory _ (s.heap.blen bp).toNat kept with
    ⟨h, refused, blk, made, out⟩ | ⟨c, h, found, alloc⟩
  · refine Or.inl ⟨h, ?_, blk, made, out⟩
    rw [Image.copyb, refused]
  · refine Or.inr ⟨c, _, by rw [Image.copyb, found], ?_⟩
    obtain ⟨db, points⟩ :=
      Option.ne_none_iff_exists'.mp (kept.attached bp member)
    have apart : bp ≠ c := fun same =>
      alloc.idle (same ▸ kept.out_of_live member)
    have source : db ≠ c := fun same =>
      alloc.idle (same ▸ kept.out_of_datap member points)
    have own : (h.blk c).bDatap.getD c = c := by rw [alloc.datap]; rfl
    have same := alloc.others bp apart
    simp only [own]
    refine ⟨alloc.idle, ?_, ?_, ?_, alloc.out, ?_, ?_, ?_, alloc.grown⟩
    · intro i strange
      simp only [modify_of_ne strange]
      exact alloc.others i strange
    · intro i strange
      simp only [Image.bcopy, Function.update_of_ne strange]
    · intro i strange
      simp only [Image.bcopy, Function.update_of_ne strange]
    · simp only [modify_self]
      exact alloc.datap
    · simp only [modify_self]
      exact alloc.cont
    · refine Prod.ext ?_ (Prod.ext ?_ ?_)
      · have size := (slide_toNat (h.blk c).bRptr (s.heap.blen bp)).symm
        have held (k : Nat) (inside : k < (s.heap.blen bp).toNat) :
            (({ s with heap := h } : Image).bcopy bp c (h.blk c).bWptr
              (s.heap.blen bp).toNat).store c ((h.blk c).bRptr + (k : Int)) =
            s.store ((s.heap.blk bp).bDatap.getD bp)
              ((s.heap.blk bp).bRptr + (k : Int)) := by
          obtain ⟨above, below, place⟩ := slide_range (h.blk c).bRptr inside
          simp only [Image.bcopy, Function.update_self, alloc.empty]
          rw [if_pos ⟨above, below⟩, place, same]
        simp only [Image.face, octets, blen, modify_self, alloc.datap,
          Option.getD_some, alloc.empty] at size ⊢
        rw [size]
        apply List.map_congr_left
        intro k less
        have octet := held k (List.mem_range.mp less)
        rw [alloc.empty] at octet
        exact octet
      · have points' : (s.heap.typeOf bp) = (s.heap.blk db).dbType := by
          rw [typeOf, points]
          rfl
        simp only [Image.face, typeOf, modify_self, alloc.datap,
          modify_of_ne apart, same, points, Option.map_some, Option.getD_some,
          modify_of_ne source, alloc.others db source]
      · simp only [Image.face, Function.update_self, Image.bcopy]

theorem Kept.copyb (kept : Kept s.heap (.rest live extra))
    (outside : memory.Outside s.heap) :
    Kept (s.copyb cfg memory bp).2.heap
      (.rest ((s.copyb cfg memory bp).1.toList ++ live) extra) := by
  have held := @Kept.allocb _ cfg _ _ memory (s.heap.blen bp).toNat false kept
    outside
  rcases result : s.heap.allocb cfg memory (s.heap.blen bp).toNat false with
    ⟨_ | c, h⟩
  · rw [result] at held
    simp only [Image.copyb, result]
    exact held
  · rw [result] at held
    have whole : Kept h (.rest (c :: live) extra) := held
    have taken := whole.out_of_live List.mem_cons_self
    obtain ⟨db, points⟩ :=
      Option.ne_none_iff_exists'.mp (whole.attached c List.mem_cons_self)
    have source := whole.out_of_datap List.mem_cons_self points
    simp only [Image.copyb, result, points, Option.getD_some]
    have first := whole.write (i := c) (f := fun md =>
      { md with bWptr := md.bWptr + (s.heap.blen bp).toNat }) taken rfl rfl rfl
    apply first.write source
    · rfl
    · rfl
    · rfl

end Copyb

section Outside

variable {h h' : Heap} {cfg : Config} {base : Addr}

theorem outside_congr (outside : h.Outside base) (made : h'.made = h.made)
    (databuf : ∀ i, (h'.blk i).databuf = (h.blk i).databuf)
    (grants : h'.grants = h.grants) : h'.Outside base := by
  refine ⟨?_, by rw [grants]; exact outside.2⟩
  intro i less
  rw [databuf]
  exact outside.1 i (made ▸ less)

theorem outside_mdbblockAlloc (outside : h.Outside base) :
    (h.mdbblockAlloc cfg).2.Outside base := by
  obtain ⟨blocks, grants⟩ := outside
  unfold mdbblockAlloc
  split
  · exact ⟨blocks, grants⟩
  · unfold mdbblockAllocSlow
    split
    · exact ⟨blocks, grants⟩
    case h_2 rest more =>
      rw [more] at grants
      exact ⟨blocks, fun member => grants (List.mem_cons_of_mem _ member)⟩
    case h_3 databuf rest more =>
      rw [more] at grants
      refine ⟨?_, fun member => grants (List.mem_cons_of_mem _ member)⟩
      intro i less
      by_cases here : i = h.made
      · subst here
        simp only [Function.update_self, mdbblockCtor]
        intro same
        exact grants (same ▸ List.mem_cons_self)
      · simp only [Function.update_of_ne here]
        exact blocks i (Nat.lt_of_le_of_ne (Nat.le_of_lt_succ less) here)
    case h_4 md rest more =>
      rw [more] at grants
      have later : Grant.constructed base ∉ rest :=
        fun member => grants (List.mem_cons_of_mem _ member)
      split
      · exact ⟨blocks, later⟩
      · exact ⟨blocks, later⟩

theorem outside_modify {i : Nat} {f : Mdbblock → Mdbblock}
    (outside : h.Outside base) (databuf : ∀ md, (f md).databuf = md.databuf) :
    (h.modify i f).Outside base :=
  outside_congr outside rfl (modify_field Mdbblock.databuf (databuf _)) rfl

theorem outside_allocb {memory : Memory} {size : Nat}
    (outside : h.Outside base) :
    (h.allocb cfg memory size false).2.Outside base := by
  unfold Heap.allocb
  simp only [Bool.false_eq_true, if_false]
  have drawn := @outside_mdbblockAlloc h cfg base outside
  split
  · unfold Heap.allocbFast
    rcases result : h.mdbblockAlloc cfg with ⟨_ | b, h'⟩
    · rw [result] at drawn
      exact drawn
    · rw [result] at drawn
      exact outside_modify drawn fun _ => rfl
  · unfold Heap.allocbKmem
    cases memory.kmemAlloc with
    | none => exact outside
    | some buffer =>
        rcases result : h.mdbblockAlloc cfg with ⟨_ | b, h'⟩
        · rw [result] at drawn
          simp only [result]
          exact outside_congr drawn rfl (fun _ => rfl) rfl
        · rw [result] at drawn
          simp only [result]
          exact outside_congr
            (outside_modify (i := b) (f := fun md => { md with
              bRptr := buffer
              bWptr := buffer
              dbBase := buffer
              dbSize := size }) drawn fun _ => rfl) rfl (fun _ => rfl) rfl

theorem outside_copyb {s : Image} {memory : Memory} {bp : Nat}
    (outside : s.heap.Outside base) :
    (s.copyb cfg memory bp).2.heap.Outside base := by
  have alloc := @outside_allocb s.heap cfg base memory (s.heap.blen bp).toNat
    outside
  rcases result : s.heap.allocb cfg memory (s.heap.blen bp).toNat false with
    ⟨_ | c, h⟩
  · rw [result] at alloc
    simp only [Image.copyb, result]
    exact alloc
  · rw [result] at alloc
    simp only [Image.copyb, result]
    apply outside_modify
    · apply outside_modify alloc
      exact fun _ => rfl
    · exact fun _ => rfl

theorem outside_append {last : Option Nat} {mp : Nat}
    (outside : h.Outside base) : (h.append last mp).Outside base := by
  cases last with
  | none => exact outside
  | some tail => exact outside_modify outside fun _ => rfl

theorem out_append {last : Option Nat} {mp i : Nat} :
    (h.append last mp).Out i ↔ h.Out i := by
  cases last <;> rfl

theorem Memory.outside_copied {s : Image} {memory memory' : Memory}
    {bp c : Nat} {last : Option Nat} (outside : memory.Outside s.heap) :
    memory.Outside ((s.copyb cfg memory' bp).2.heap.append last c) := by
  refine ⟨?_, ?_⟩
  · intro base given
    exact outside_append (outside_copyb (outside.1 base given))
  · intro skb given
    exact outside_append (outside_copyb (outside.2 skb given))

end Outside

section Copymsg

variable {s s' : Image} {cfg : Config} {live : List Nat}
  {extra : Nat → Resource → Nat} {memory : Nat → Memory}

theorem face_append {last : Option Nat} {c i : Nat} :
    ({ s with heap := s.heap.append last c } : Image).face i = s.face i := by
  cases last with
  | none => rfl
  | some tail =>
      have message (j : Nat) := modify_field (h := s.heap) (i := tail)
        (f := fun md => { md with bCont := some c })
        (fun md => (md.bRptr, md.bWptr, md.bDatap, md.dbType)) rfl j
      simp only [Prod.mk.injEq] at message
      simp only [Image.face, Heap.append, octets, blen, typeOf, message]

theorem Copied.face_same {bp c i : Nat} (copied : Copied s bp c s')
    (kept : Kept s.heap (.rest live extra)) (member : i ∈ live) :
    s'.face i = s.face i := by
  have apart {j : Nat} (taken : s.heap.Out j) : j ≠ c := fun same =>
    copied.idle (same ▸ taken)
  have own := apart (kept.out_of_live member)
  refine face_congr (copied.blk i own) ?_ ?_ (copied.store i own)
    (copied.attr i own)
  · exact fun d points => copied.blk d
      (apart (kept.out_of_datap member points))
  · exact fun d points => copied.store d
      (apart (kept.out_of_datap member points))

/-- What `copymsg` leaves when every block can be copied: the copies hang
together, show what the blocks show, and have data blocks of their own. -/
structure Copies (s s' : Image) (live : List Nat)
    (extra : Nat → Resource → Nat) (msg : Option Nat) (cs bs new : List Nat) :
    Prop where
  kept : Kept s'.heap (.rest ((cs ++ new) ++ live) extra)
  linked : s'.heap.IsChain msg (cs ++ new)
  equal : new.map s'.face = bs.map s.face
  own : ∀ c ∈ new, ¬ s.heap.Out c ∧ (s'.heap.blk c).bDatap = some c
  face : ∀ i ∈ cs ++ live, s'.face i = s.face i
  datap : ∀ i ∈ cs ++ live, (s'.heap.blk i).bDatap = (s.heap.blk i).bDatap
  msgb : ∀ i ∈ live, (s'.heap.blk i).msgb = (s.heap.blk i).msgb

theorem copymsgFrom_spec {bs₀ bs cs : List Nat} {mp : Nat}
    {start msg : Option Nat} {fuel freeFuel k : Nat}
    (kept : Kept s.heap (.rest (cs ++ live) extra))
    (linked : s.heap.IsChain start bs) (held : ∀ b ∈ bs, b ∈ live)
    (copied : s.heap.IsChain msg cs) (enough : bs.length ≤ fuel)
    (outside : ∀ k, (memory k).Outside s.heap)
    (whole : s.heap.IsChain (some mp) bs₀) (once : bs₀.Nodup)
    (used : ∀ b ∈ bs₀, b ∈ live) (freed : bs₀.length ≤ freeFuel) :
    let out :=
      Image.copymsgFrom cfg memory freeFuel mp fuel k s start msg cs.getLast?
    (Image.AllCopied cfg memory fuel k s start cs.getLast? →
        ∃ new, Copies s out.2 live extra out.1 cs bs new) ∧
      (¬ Image.AllCopied cfg memory fuel k s start cs.getLast? →
        out.1 = none ∧ ∃ part, (∀ c ∈ part, c ∉ live) ∧ Kept out.2.heap
          (.rest (part ++ live.filter fun c => decide (c ∉ bs₀)) extra)) := by
  induction bs generalizing s cs start msg fuel k with
  | nil =>
      rw [linked]
      have out : Image.copymsgFrom cfg memory freeFuel mp fuel k s none msg
          cs.getLast? = (msg, s) := by
        cases fuel <;> rfl
      have all : Image.AllCopied cfg memory fuel k s none cs.getLast? := by
        cases fuel <;> trivial
      rw [out]
      refine ⟨fun _ => ⟨[], ?_⟩, fun some => absurd all some⟩
      constructor
      · rw [List.append_nil]
        exact kept
      · rw [List.append_nil]
        exact copied
      · rfl
      · exact fun c member => absurd member List.not_mem_nil
      · exact fun _ _ => rfl
      · exact fun _ _ => rfl
      · exact fun _ _ => rfl
  | cons b rest ih =>
      cases fuel with
      | zero => exact absurd enough (Nat.not_succ_le_zero _)
      | succ fuel =>
          have source : b ∈ live := held b List.mem_cons_self
          have member : b ∈ cs ++ live := List.mem_append_right _ source
          have distinct : (cs ++ live).Nodup := kept.once
          have apart {i : Nat} (original : i ∈ live) : i ∉ cs := fun copy =>
            (List.nodup_append.mp distinct).2.2 i copy i original rfl
          have held' := @Kept.copyb s cfg _ _ (memory k) b kept (outside k)
          rw [linked.1]
          unfold Image.copymsgFrom Image.AllCopied
          rcases @copyb_cases s cfg _ _ (memory k) _ kept member with
            ⟨h, refused, blk, made, out⟩ | ⟨c, s', found, copy⟩
          · rw [refused] at held' ⊢
            refine ⟨fun all => all.elim, fun _ => ⟨rfl, cs,
              fun _ copy original => apart original copy, ?_⟩⟩
            have before : Kept h (.rest (cs ++ live) extra) := held'
            have gone := before.freemsg
              (whole.congr fun i _ => by rw [blk]) once
              (fun i original => List.mem_append_right _ (used i original))
              freed
            rw [List.filter_append, List.filter_eq_self.mpr fun i copy => by
              simpa using fun original => apart (used i original) copy] at gone
            exact gone
          · rw [found] at held' ⊢
            have more : Kept s'.heap (.rest (c :: (cs ++ live)) extra) := held'
            have strange : c ∉ cs ++ live := (List.nodup_cons.mp more.once).1
            have last {i : Nat} (tail : i ∈ cs.getLast?) : i ∈ cs :=
              List.mem_of_getLast? tail
            have reordered : Kept s'.heap (.rest ((cs ++ [c]) ++ live) extra) := by
              apply more.perm
              rw [List.append_assoc]
              exact List.perm_middle.symm
            have hung : Kept (s'.heap.append cs.getLast? c)
                (.rest ((cs ++ [c]) ++ live) extra) :=
              reordered.append fun i tail => List.mem_append_left _
                (List.mem_append_left _ (last tail))
            have blk {i : Nat} (known : i ∈ cs ++ live) :
                s'.heap.blk i = s.heap.blk i :=
              copy.blk i fun same => strange (same ▸ known)
            have blk' {i : Nat} (original : i ∈ live) :
                (s'.heap.append cs.getLast? c).blk i = s.heap.blk i := by
              rw [append_frame fun tail => apart original (last tail),
                blk (List.mem_append_right _ original)]
            have chained : (s'.heap.append cs.getLast? c).IsChain
                (msg.or (some c)) (cs ++ [c]) := by
              apply IsChain.append_last _ _ copy.cont
              · exact copied.congr fun i known => by
                  rw [blk (List.mem_append_left _ known)]
              · rw [List.nodup_append]
                refine ⟨(List.nodup_append.mp distinct).1, by simp, ?_⟩
                intro i known d new
                rw [List.mem_singleton.mp new]
                exact fun same => strange (List.mem_append_left _ (same ▸ known))
            have linked' : (s'.heap.append cs.getLast? c).IsChain
                ((s'.heap.append cs.getLast? c).blk b).bCont rest := by
              rw [blk' source]
              exact linked.2.congr fun i later => by
                rw [blk' (held i (List.mem_cons_of_mem _ later))]
            have outside' (k' : Nat) : (memory k').Outside
                (s'.heap.append cs.getLast? c) := by
              have next := @Memory.outside_copied cfg s (memory k') (memory k) b
                c cs.getLast? (outside k')
              rw [found] at next
              exact next
            have next := @ih
              { s' with heap := s'.heap.append cs.getLast? c } (cs ++ [c]) _
              (msg.or (some c)) fuel (k + 1) hung linked'
              (fun i later => held i (List.mem_cons_of_mem _ later)) chained
              (Nat.le_of_succ_le_succ enough) outside'
              (whole.congr fun i original => by rw [blk' (used i original)])
            rw [List.getLast?_concat] at next
            refine ⟨fun all => ?_, next.2⟩
            obtain ⟨new, copies⟩ := next.1 all
            have face {i : Nat} (known : i ∈ cs ++ live) :
                ({ s' with heap := s'.heap.append cs.getLast? c } : Image).face
                  i = s.face i :=
              face_append.trans (copy.face_same kept known)
            have wide {i : Nat} (known : i ∈ cs ++ live) :
                i ∈ (cs ++ [c]) ++ live := by
              rw [List.append_assoc]
              rcases List.mem_append.mp known with copy | original
              · exact List.mem_append_left _ copy
              · exact List.mem_append_right _
                  (List.mem_append_right _ original)
            have here : c ∈ (cs ++ [c]) ++ live :=
              List.mem_append_left _ (List.mem_append_right _ (by simp))
            have datap (i : Nat) : ((s'.heap.append cs.getLast? c).blk i).bDatap =
                (s'.heap.blk i).bDatap := by
              cases cs.getLast? with
              | none => rfl
              | some tail =>
                  exact modify_field (f := fun md => { md with bCont := some c })
                    Mdbblock.bDatap rfl i
            refine ⟨c :: new, ?_, ?_, ?_, ?_, ?_, ?_, ?_⟩
            · have grown := copies.kept
              rw [List.append_assoc cs [c] new] at grown
              exact grown
            · have grown := copies.linked
              rw [List.append_assoc cs [c] new] at grown
              exact grown
            · rw [List.map_cons, List.map_cons, copies.equal,
                copies.face c here, face_append, copy.face]
              congr 1
              apply List.map_congr_left
              intro i later
              exact face (List.mem_append_right _
                (held i (List.mem_cons_of_mem _ later)))
            · intro i member
              rcases List.mem_cons.mp member with rfl | later
              · rw [copies.datap i here, datap, copy.datap]
                exact ⟨copy.idle, rfl⟩
              · obtain ⟨idle, own⟩ := copies.own i later
                refine ⟨fun taken => idle ?_, own⟩
                rw [out_append]
                exact (copy.out i).mpr (Or.inr taken)
            · intro i known
              rw [copies.face i (wide known), face known]
            · intro i known
              rw [copies.datap i (wide known), datap, blk known]
            · intro i original
              rw [copies.msgb i original, blk' original]

end Copymsg

end OpenSS7.Mblk
