import OpenSS7.Mblk.Msgpullup

/-!
Whether `pullupmsg` keeps what a message holds.
-/

namespace OpenSS7.Mblk

namespace Image

/-- The second loop of `pullupmsg`, as `Heap.pullBlocks`, with what it copies:
`db` is the data block whose buffer `b_wptr` of the first block points into. -/
def pullBlocks (mp db type : Nat) : Nat → Image → Int → Int × Image
  | 0, s, size => (size, s)
  | fuel + 1, s, size =>
      match (s.heap.blk mp).bCont with
      | none => (size, s)
      | some bp =>
          let blen := max (s.heap.blen bp) 0
          if 0 < blen ∧ s.heap.typeOf bp ≠ type then (size, s)
          else if blen ≤ size then
            let s := s.bcopy bp db (s.heap.blk mp).bWptr blen.toNat
            let h := s.heap.modify mp fun md =>
              { md with bWptr := md.bWptr + blen }
            let s : Image := { s with heap := (h.unlinkNext mp bp).freeb bp }
            if size - blen ≤ 0 then (size - blen, s)
            else pullBlocks mp db type fuel s (size - blen)
          else
            let s := s.bcopy bp db (s.heap.blk mp).bWptr size.toNat
            let h := s.heap.modify mp fun md =>
              { md with bWptr := md.bWptr + size }
            (0, { s with
              heap := h.modify bp fun md =>
                { md with bRptr := md.bRptr + size } })

/-- The label `pull_len`. The first block is copied to the new buffer, and is
made to point into the old one. -/
def pullLen (s : Image) (cfg : Config) (kmemAlloc : Option Addr) (mp : Nat)
    (size : Int) (type : Nat) : Bool × Image :=
  match (s.heap.blk mp).bDatap, s.heap.mdbblockAlloc cfg with
  | none, (_, h) => (false, { s with heap := h })
  | some _, (none, h) => (false, { s with heap := h })
  | some db, (some md, h) =>
      match kmemAlloc with
      | none => (false, { s with heap := h.mdbblockFree md })
      | some base =>
          let h := h.modify md fun block =>
            { block with
              bDatap := none
              dbBase := base
              dbType := (h.blk db).dbType
              dbSize := size.toNat }
          let h := h.note (.took (some md) (.kmem base size.toNat))
          let blen := max (h.blen mp) 0
          let s := ({ s with heap := h } : Image).bcopy mp md base blen.toNat
          let h := h.modify mp fun block =>
            { block with
              bRptr := (h.blk db).dbBase
              bWptr := (h.blk db).dbBase + blen
              bDatap := some md }
          let h := h.freedb db
          let (left, s) := pullBlocks mp db type h.made { s with heap := h }
            (size - blen)
          (decide (left = 0), s)

def pullupmsg (s : Image) (cfg : Config) (kmemAlloc : Option Addr) (mp : Nat)
    (len : Int) : Bool × Image :=
  if len < -1 then (false, s)
  else if len = 0 ∨ (len ≤ s.heap.blen mp ∧ 0 ≤ len ∧
      (s.heap.blk mp).bRptr % cfg.l1CacheBytes = 0) then (true, s)
  else
    let type := s.heap.typeOf mp
    let (pull, size) := s.heap.pullSize len type s.heap.made (some mp) 0
    if pull then s.pullLen cfg kmemAlloc mp size type
    else if size ≤ len then (false, s)
    else s.pullLen cfg kmemAlloc mp size type

end Image

namespace Heap

def Permits (h : Heap) (cfg : Config) (kmemAlloc : Option Addr) : Prop :=
  (h.mdbblockAlloc cfg).1 ≠ none ∧ kmemAlloc ≠ none

def Fast (h : Heap) (cfg : Config) (mp : Nat) (len : Int) : Prop :=
  len ≤ h.blen mp ∧ 0 ≤ len ∧ (h.blk mp).bRptr % cfg.l1CacheBytes = 0

instance (h : Heap) (cfg : Config) (kmemAlloc : Option Addr) :
    Decidable (h.Permits cfg kmemAlloc) :=
  inferInstanceAs (Decidable (_ ∧ _))

instance (h : Heap) (cfg : Config) (mp : Nat) (len : Int) :
    Decidable (h.Fast cfg mp len) :=
  inferInstanceAs (Decidable (_ ∧ _ ∧ _))

def asked (h : Heap) (mp : Nat) (len : Int) : Nat :=
  (h.pullSize len (h.typeOf mp) h.made (some mp) 0).2.toNat

/-- The pointers of a block point into the buffer of its data block, which ends
at `db_lim`. -/
def Within (h : Heap) (lim : Nat → Addr) (mp : Nat) : Prop :=
  ∃ d ∈ (h.blk mp).bDatap,
    (h.blk d).dbBase ≤ (h.blk mp).bRptr ∧ (h.blk mp).bWptr ≤ lim d

/-- `db_lim` afterwards: a data block that was in use keeps it, and one that was
drawn has what `ktruesize` says. -/
def limits (h h' : Heap) (lim : Nat → Addr) (ktruesize : Addr → Nat → Nat)
    (d : Nat) : Addr :=
  if h.Out d then lim d
  else (h'.blk d).dbBase + ktruesize (h'.blk d).dbBase (h'.blk d).dbSize

/-- No buffer in use begins in the `size` octets at an address, nor at it. -/
def Unused (h : Heap) (base : Addr) (size : Nat) : Prop :=
  ∀ d, h.Out d → (h.blk d).dbBase ≠ base ∧
    ¬ (base ≤ (h.blk d).dbBase ∧ (h.blk d).dbBase < base + size)

instance (h : Heap) (base : Addr) (size : Nat) :
    Decidable (h.Unused base size) :=
  decidable_of_iff (∀ d, d < h.made → h.Out d → (h.blk d).dbBase ≠ base ∧
      ¬ (base ≤ (h.blk d).dbBase ∧ (h.blk d).dbBase < base + size))
    ⟨fun all d taken => all d taken.1 taken, fun all d _ => all d⟩

end Heap

/-- `pullupmsg` succeeds when there are the octets, as far as allocation
permits, and then they are in the first block and in its buffer, and the message
holds what it held; when it fails the message is as it was. -/
structure Image.PullsInPlace (s : Image) (cfg : Config)
    (kmemAlloc : Option Addr) (lim : Nat → Addr)
    (ktruesize : Addr → Nat → Nat) (mp : Nat) (len : Int) : Prop where
  enough : (s.pullupmsg cfg kmemAlloc mp len).1 = true →
    len ≤ s.heap.lead mp
  succeeds : len ≤ s.heap.lead mp →
    len = 0 ∨ s.heap.Permits cfg kmemAlloc →
      (s.pullupmsg cfg kmemAlloc mp len).1 = true
  data : (s.pullupmsg cfg kmemAlloc mp len).1 = true →
    (s.pullupmsg cfg kmemAlloc mp len).2.heap.data
        (s.pullupmsg cfg kmemAlloc mp len).2.store
        ((s.pullupmsg cfg kmemAlloc mp len).2.heap.blocks mp) =
      s.heap.data s.store (s.heap.blocks mp)
  within : (s.pullupmsg cfg kmemAlloc mp len).1 = true →
    (s.pullupmsg cfg kmemAlloc mp len).2.heap.Within
      (s.heap.limits (s.pullupmsg cfg kmemAlloc mp len).2.heap lim ktruesize) mp
  first : (s.pullupmsg cfg kmemAlloc mp len).1 = true →
    s.wanted mp len ≤
      ((s.pullupmsg cfg kmemAlloc mp len).2.heap.blen mp).toNat
  untouched : (s.pullupmsg cfg kmemAlloc mp len).1 = false →
    ∀ b ∈ s.heap.blocks mp,
      (s.pullupmsg cfg kmemAlloc mp len).2.face b = s.face b ∧
        ((s.pullupmsg cfg kmemAlloc mp len).2.heap.blk b).bCont =
          (s.heap.blk b).bCont

open Heap

section Projection

variable {s : Image} {cfg : Config} {kmemAlloc : Option Addr} {mp type : Nat}

theorem heap_pullBlocks {db fuel : Nat} {size : Int} :
    (s.pullBlocks mp db type fuel size).map id Image.heap =
      Heap.pullBlocks mp type fuel s.heap size := by
  induction fuel generalizing s size with
  | zero => rfl
  | succ fuel ih =>
      unfold Image.pullBlocks Heap.pullBlocks
      cases (s.heap.blk mp).bCont with
      | none => rfl
      | some bp =>
          simp only
          split
          · rfl
          · split
            · split
              · rfl
              · exact ih
            · rfl

theorem heap_pullLen {size : Int} :
    (s.pullLen cfg kmemAlloc mp size type).map id Image.heap =
      s.heap.pullLen cfg kmemAlloc mp size type := by
  unfold Image.pullLen Heap.pullLen
  rcases s.heap.mdbblockAlloc cfg with ⟨_ | md, h⟩
  · cases (s.heap.blk mp).bDatap <;> rfl
  · cases (s.heap.blk mp).bDatap with
    | none => rfl
    | some db =>
        cases kmemAlloc with
        | none => rfl
        | some base =>
            exact congrArg (fun out : Int × Heap =>
              (decide (out.1 = 0), out.2)) heap_pullBlocks

end Projection

section Buffers

variable {h : Heap} {i : Nat}

def Mdbblock.buffer (md : Mdbblock) : Addr × Nat := (md.dbBase, md.dbSize)

theorem buffer_mdbblockFree {b : Nat} :
    ((h.mdbblockFree b).blk i).buffer = (h.blk i).buffer :=
  modify_field (f := fun md => { md with
    bCont := none
    bDatap := some b
    dbFrtnp := none
    dbRef := 1
    dbType := MData }) Mdbblock.buffer rfl i

theorem buffer_freedb {b : Nat} :
    ((h.freedb b).blk i).buffer = (h.blk i).buffer := by
  have low : ((h.dbDecAndTest b).2.blk i).buffer = (h.blk i).buffer :=
    modify_field (f := fun md => { md with dbRef := (md.dbRef + 255) % 256 })
      Mdbblock.buffer rfl i
  unfold Heap.freedb
  simp only
  split
  · split
    · rw [buffer_mdbblockFree, blk_release, low]
    · rw [blk_release, low]
  · exact low

theorem buffer_freeb {b : Nat} :
    ((h.freeb b).blk i).buffer = (h.blk i).buffer := by
  unfold Heap.freeb
  split
  · rfl
  case h_2 db _ =>
    have gone : ((h.modify b fun md => { md with bDatap := none }).blk
        i).buffer = (h.blk i).buffer :=
      modify_field (f := fun md => { md with bDatap := none })
        Mdbblock.buffer rfl i
    simp only
    split
    · rw [buffer_mdbblockFree, buffer_freedb, gone]
    · rw [buffer_freedb, gone]

end Buffers

section Blocks

variable {h : Heap} {live : List Nat} {extra : Nat → Resource → Nat}
  {mp : Nat}

structure Extended (h h' : Heap) (mp : Nat) (count : Int) : Prop where
  rptr : (h'.blk mp).bRptr = (h.blk mp).bRptr
  wptr : (h'.blk mp).bWptr = (h.blk mp).bWptr + count
  datap : (h'.blk mp).bDatap = (h.blk mp).bDatap
  buffer : ∀ i, (h'.blk i).buffer = (h.blk i).buffer

theorem Extended.trans {h' h'' : Heap} {count count' : Int}
    (first : Extended h h' mp count) (next : Extended h' h'' mp count') :
    Extended h h'' mp (count + count') := by
  refine ⟨next.rptr.trans first.rptr, ?_, next.datap.trans first.datap,
    fun i => (next.buffer i).trans (first.buffer i)⟩
  rw [next.wptr, first.wptr, Int.add_assoc]

theorem Extended.nothing : Extended h h mp 0 :=
  ⟨rfl, (Int.add_zero _).symm, rfl, fun _ => rfl⟩

theorem Extended.cut {bp : Nat} {rest : List Nat} {blen : Int}
    (kept : Kept h (.rest live extra))
    (message : Message h live mp (bp :: rest)) :
    Extended h (h.cut mp bp blen) mp blen := by
  have member := message.held mp List.mem_cons_self
  have apart : mp ≠ bp := fun same =>
    (List.nodup_cons.mp message.once).1 (same ▸ List.mem_cons_self)
  have own : (((h.modify mp fun md =>
      { md with bWptr := md.bWptr + blen }).unlinkNext mp bp).blk mp) =
      { h.blk mp with
        bWptr := (h.blk mp).bWptr + blen
        bCont := ((h.modify mp fun md =>
          { md with bWptr := md.bWptr + blen }).blk bp).bCont } := by
    rw [unlinkNext, modify_self, modify_self]
  have message' := msgb_freeb (h := (h.modify mp fun md =>
    { md with bWptr := md.bWptr + blen }).unlinkNext mp bp) apart (by
      rw [own]
      exact kept.attached mp member)
  rw [own] at message'
  refine ⟨congrArg (fun m => m.2.1) message',
    congrArg (fun m => m.2.2.1) message', congrArg (fun m => m.2.2.2) message',
    fun i => ?_⟩
  refine buffer_freeb.trans ?_
  rw [unlinkNext,
    modify_field (h := h.modify mp fun md =>
      { md with bWptr := md.bWptr + blen }) (i := mp) (f := fun md =>
      { md with bCont := ((h.modify mp fun md =>
        { md with bWptr := md.bWptr + blen }).blk bp).bCont })
      Mdbblock.buffer rfl i,
    modify_field (f := fun md => { md with bWptr := md.bWptr + blen })
      Mdbblock.buffer rfl i]

theorem extended_pullBlocks {type fuel : Nat} {bs : List Nat} {size : Int}
    (kept : Kept h (.rest live extra)) (message : Message h live mp bs) :
    Extended h (Heap.pullBlocks mp type fuel h size).2 mp
      (size - (Heap.pullBlocks mp type fuel h size).1) := by
  have still (size : Int) : Extended h h mp (size - size) := by
    rw [Int.sub_self]
    exact .nothing
  induction bs generalizing h live size fuel with
  | nil =>
      have last : (h.blk mp).bCont = none := message.linked.2
      cases fuel with
      | zero => exact still size
      | succ fuel =>
          rw [Heap.pullBlocks, last]
          exact still size
  | cons bp rest ih =>
      have next : (h.blk mp).bCont = some bp := message.linked.2.1
      cases fuel with
      | zero => exact still size
      | succ fuel =>
          rw [Heap.pullBlocks, next]
          simp only
          split
          · exact still size
          · split
            · obtain ⟨freed, message'⟩ :=
                @Kept.cut _ _ _ _ _ _ (max (h.blen bp) 0) kept message
              have first := @Extended.cut _ _ _ _ _ _ (max (h.blen bp) 0) kept
                message
              split
              · have all : size - (size - max (h.blen bp) 0) =
                    max (h.blen bp) 0 := Int.sub_sub_self ..
                rw [all]
                exact first
              · have more := first.trans (@ih _ _ fuel
                  (size - max (h.blen bp) 0) freed message' fun size => by
                    rw [Int.sub_self]
                    exact .nothing)
                have whole (left : Int) : max (h.blen bp) 0 +
                    (size - max (h.blen bp) 0 - left) = size - left := by
                  omega
                rw [whole] at more
                exact more
            · have apart : mp ≠ bp := fun same =>
                (List.nodup_cons.mp message.once).1
                  (same ▸ List.mem_cons_self)
              rw [Int.sub_zero]
              refine ⟨?_, ?_, ?_, fun i => ?_⟩
              · rw [modify_of_ne apart, modify_self]
              · rw [modify_of_ne apart, modify_self]
              · rw [modify_of_ne apart, modify_self]
              · exact (modify_field (f := fun md =>
                    { md with bRptr := md.bRptr + size }) Mdbblock.buffer rfl
                  i).trans (modify_field (f := fun md =>
                    { md with bWptr := md.bWptr + size }) Mdbblock.buffer rfl i)

end Blocks

section Lengths

variable {s : Image} {cfg : Config} {live : List Nat}
  {extra : Nat → Resource → Nat} {kmemAlloc : Option Addr}
  {mp type : Nat} {bs : List Nat} {size : Int}

theorem pullLen_refused (kept : Kept s.heap (.rest live extra))
    (member : mp ∈ live) (refused : ¬ s.heap.Permits cfg kmemAlloc) :
    (s.pullLen cfg kmemAlloc mp size type).1 = false ∧
      (s.pullLen cfg kmemAlloc mp size type).2.store = s.store ∧
      (s.pullLen cfg kmemAlloc mp size type).2.attr = s.attr ∧
      ∀ i, s.heap.Out i →
        (s.pullLen cfg kmemAlloc mp size type).2.heap.blk i =
          s.heap.blk i := by
  obtain ⟨db, points⟩ :=
    Option.ne_none_iff_exists'.mp (kept.attached mp member)
  unfold Image.pullLen
  rcases @mdbblockAlloc_cases _ cfg _ kept with
    ⟨grants, none⟩ | ⟨md, h', found, drawn⟩
  · rw [none, points]
    exact ⟨rfl, rfl, rfl, fun _ _ => rfl⟩
  · rw [found, points]
    cases kmemAlloc with
    | none =>
        refine ⟨rfl, rfl, rfl, fun i taken => ?_⟩
        have other := drawn.apart taken
        exact (blk_mdbblockFree_of_ne other).trans (drawn.others i other)
    | some base =>
        exact absurd ⟨by rw [found]; nofun, nofun⟩ refused

structure Astray (h h' : Heap) (mp db md : Nat) (base : Addr) (size : Nat) :
    Prop where
  points : (h.blk mp).bDatap = some db
  fresh : ¬ h.Out md
  datap : (h'.blk mp).bDatap = some md
  rptr : (h'.blk mp).bRptr = (h.blk db).dbBase
  buffer : (h'.blk md).buffer = (base, size)

theorem pullLen_astray {h : Heap} {base : Addr}
    (kept : Kept h (.rest live extra)) (message : Message h live mp bs)
    (outside : h.Outside base) (found : (h.mdbblockAlloc cfg).1 ≠ none) :
    ∃ db md, Astray h (h.pullLen cfg (some base) mp size type).2 mp db md base
        size.toNat ∧
      ((h.pullLen cfg (some base) mp size type).1 = true →
        ((h.pullLen cfg (some base) mp size type).2.blk mp).bWptr =
          (h.blk db).dbBase + size) := by
  have member := message.held mp List.mem_cons_self
  obtain ⟨db, points⟩ :=
    Option.ne_none_iff_exists'.mp (kept.attached mp member)
  rcases @mdbblockAlloc_cases _ cfg _ kept with
    ⟨grants, none⟩ | ⟨md, h', some, drawn⟩
  · exact absurd (by rw [none]) found
  · have apart := drawn_outside kept outside some
    have strange := drawn.apart (kept.out_of_live member)
    have source := drawn.apart (kept.out_of_datap member points)
    have old := drawn.others db source
    refine ⟨db, md, ?_⟩
    have whole (blen : Int) (fuel : Nat) :
        Astray h (Heap.pullBlocks mp type fuel
            ((h'.refilled mp md db base size.toNat blen).freedb db)
            (size - blen)).2 mp db md base size.toNat ∧
          (decide ((Heap.pullBlocks mp type fuel
            ((h'.refilled mp md db base size.toNat blen).freedb db)
            (size - blen)).1 = 0) = true →
            ((Heap.pullBlocks mp type fuel
              ((h'.refilled mp md db base size.toNat blen).freedb db)
              (size - blen)).2.blk mp).bWptr = (h.blk db).dbBase + size) := by
      obtain ⟨moved, message', frame⟩ :=
        @Kept.moved _ _ _ _ _ _ _ _ size.toNat blen bs kept message drawn points
          apart
      have extended := @extended_pullBlocks _ _ _ mp type fuel bs (size - blen)
        moved message'
      have blk := @blk_refilled h' mp md db base size.toNat blen strange source
      have own := frame mp member
      rw [blk, if_pos rfl, old] at own
      have rptr := congrArg (fun m => m.2.1) own
      have wptr := congrArg (fun m => m.2.2.1) own
      have datap := congrArg (fun m => m.2.2.2) own
      refine ⟨⟨points, drawn.idle, ?_, ?_, ?_⟩, fun done => ?_⟩
      · exact extended.datap.trans datap
      · exact extended.rptr.trans rptr
      · rw [extended.buffer, buffer_freedb, blk, if_neg (Ne.symm strange),
          if_pos rfl]
        rfl
      · have moves (w : Int) (begins : w = (h.blk db).dbBase + blen) :
            w + (size - blen - 0) = (h.blk db).dbBase + size := by
          omega
        rw [extended.wptr, of_decide_eq_true done]
        exact moves _ wptr
    unfold Heap.pullLen
    rw [some, points]
    exact whole _ _

theorem store_bcopy_zero {b db : Nat} {dest : Addr} :
    (s.bcopy b db dest 0).store = s.store := by
  have none : (fun a => if dest ≤ a ∧ a < dest + (0 : Nat) then
      s.store ((s.heap.blk b).bDatap.getD b)
        ((s.heap.blk b).bRptr + (a - dest))
      else s.store db a) = s.store db := by
    funext a
    rw [if_neg]
    rintro ⟨above, below⟩
    exact absurd below (Int.not_lt.mpr (by simpa using above))
  unfold Image.bcopy
  simp only
  rw [none]
  exact Function.update_eq_self db s.store

theorem pullBlocks_zero {db fuel : Nat}
    (kept : Kept s.heap (.rest live extra))
    (message : Message s.heap live mp bs) :
    (s.pullBlocks mp db type fuel 0).1 = 0 ∧
      (s.pullBlocks mp db type fuel 0).2.store = s.store ∧
      ∃ left, (s.pullBlocks mp db type fuel 0).2.heap.IsChain (some mp)
          (mp :: left) ∧
        (s.pullBlocks mp db type fuel 0).2.heap.data s.store left =
          s.heap.data s.store bs := by
  have nothing : ∃ left, s.heap.IsChain (some mp) (mp :: left) ∧
      s.heap.data s.store left = s.heap.data s.store bs :=
    ⟨bs, message.linked, rfl⟩
  cases fuel with
  | zero => exact ⟨rfl, rfl, nothing⟩
  | succ fuel =>
      cases bs with
      | nil =>
          have last : (s.heap.blk mp).bCont = none := message.linked.2
          rw [Image.pullBlocks, last]
          exact ⟨rfl, rfl, nothing⟩
      | cons bp rest =>
          have next : (s.heap.blk mp).bCont = some bp := message.linked.2.1
          obtain ⟨first, once⟩ := List.nodup_cons.mp message.once
          have apart : bp ≠ mp := fun same => first (same ▸ List.mem_cons_self)
          rw [Image.pullBlocks, next]
          simp only
          split
          · exact ⟨rfl, rfl, nothing⟩
          · split
            case isTrue empty =>
              have none : max (s.heap.blen bp) 0 = 0 :=
                Int.le_antisymm empty (Int.le_max_right _ _)
              obtain ⟨_, message'⟩ := @Kept.cut _ _ _ _ _ _ 0 kept message
              simp only [none, Int.sub_self, Int.le_refl, if_true,
                Int.toNat_zero]
              refine ⟨trivial, store_bcopy_zero, rest, message'.linked, ?_⟩
              have gone : s.heap.octets s.store bp = [] :=
                octets_of_empty (Int.le_trans (Int.le_max_left _ _) empty)
              rw [data_cons, gone, List.nil_append]
              unfold Heap.data
              apply List.flatMap_congr
              intro b later
              have other : b ≠ mp := fun same =>
                first (List.mem_cons_of_mem _ (same ▸ later))
              have strange : b ≠ bp := fun same =>
                (List.nodup_cons.mp once).1 (same ▸ later)
              have before : ((s.heap.modify mp fun md =>
                  { md with bWptr := md.bWptr + 0 }).unlinkNext mp bp).blk b =
                  s.heap.blk b := by
                rw [unlinkNext, modify_of_ne other, modify_of_ne other]
              have same := msgb_freeb (h := (s.heap.modify mp fun md =>
                { md with bWptr := md.bWptr + 0 }).unlinkNext mp bp) strange (by
                  rw [before]
                  exact kept.attached b (message.held b
                    (List.mem_cons_of_mem _ (List.mem_cons_of_mem _ later))))
              rw [before] at same
              exact octets_congr (congrArg (fun m => m.2.1) same)
                (congrArg (fun m => m.2.2.1) same)
                (congrArg (fun m => m.2.2.2) same)
            case isFalse =>
              refine ⟨rfl, store_bcopy_zero, bp :: rest, ?_, ?_⟩
              · apply message.linked.congr
                intro b _
                rw [modify_field Mdbblock.bCont rfl,
                  modify_field Mdbblock.bCont rfl]
                rfl
              · unfold Heap.data
                apply List.flatMap_congr
                intro b member
                have other : b ≠ mp := fun same => first (same ▸ member)
                have still : (((s.heap.modify mp fun md =>
                    { md with bWptr := md.bWptr + 0 }).modify bp fun md =>
                    { md with bRptr := md.bRptr + 0 }).blk b) =
                    s.heap.blk b := by
                  by_cases here : b = bp
                  · rw [here, modify_self, modify_of_ne apart, Int.add_zero]
                  · rw [modify_of_ne here, modify_of_ne other]
                exact octets_of_blk still

theorem pullLen_zero {base : Addr} (kept : Kept s.heap (.rest live extra))
    (message : Message s.heap live mp bs) (outside : s.heap.Outside base)
    (found : (s.heap.mdbblockAlloc cfg).1 ≠ none)
    (empty : s.heap.blen mp ≤ 0) :
    (s.pullLen cfg (some base) mp 0 type).1 = true ∧
      (s.pullLen cfg (some base) mp 0 type).2.heap.data
          (s.pullLen cfg (some base) mp 0 type).2.store
          ((s.pullLen cfg (some base) mp 0 type).2.heap.blocks mp) =
        s.heap.data s.store (mp :: bs) := by
  have member := message.held mp List.mem_cons_self
  obtain ⟨db, points⟩ :=
    Option.ne_none_iff_exists'.mp (kept.attached mp member)
  rcases @mdbblockAlloc_cases _ cfg _ kept with
    ⟨grants, none⟩ | ⟨md, h', some, drawn⟩
  · exact absurd (by rw [none]) found
  · have apart := drawn_outside kept outside some
    have strange := drawn.apart (kept.out_of_live member)
    have source := drawn.apart (kept.out_of_datap member points)
    obtain ⟨moved, message', frame⟩ :=
      @Kept.moved _ _ _ _ _ _ _ _ 0 0 bs kept message drawn points apart
    have blk := @blk_refilled h' mp md db base 0 0 strange source
    have rest : ((h'.refilled mp md db base 0 0).freedb db).data s.store bs =
        s.heap.data s.store bs := by
      unfold Heap.data
      apply List.flatMap_congr
      intro b later
      have original := message.held b (List.mem_cons_of_mem _ later)
      have other : b ≠ mp := fun same =>
        (List.nodup_cons.mp message.once).1 (same ▸ later)
      have foreign := drawn.apart (kept.out_of_live original)
      have same := frame b original
      rw [blk, if_neg other, if_neg foreign, drawn.others b foreign] at same
      exact octets_congr (congrArg (fun m => m.2.1) same)
        (congrArg (fun m => m.2.2.1) same) (congrArg (fun m => m.2.2.2) same)
    have kept_blen {f : Mdbblock → Mdbblock} {event : Event} :
        ((h'.modify md f).note event).blen mp = s.heap.blen mp := by
      simp only [Heap.blen, note, modify_of_ne strange,
        drawn.others mp strange]
    have none : max (s.heap.blen mp) 0 = 0 := by omega
    have out : s.pullLen cfg (Option.some base) mp 0 type =
        (decide ((Image.pullBlocks mp db type h'.made
            ⟨(h'.refilled mp md db base 0 0).freedb db, s.store, s.attr⟩
              0).1 = 0),
          (Image.pullBlocks mp db type h'.made
            ⟨(h'.refilled mp md db base 0 0).freedb db, s.store, s.attr⟩
              0).2) := by
      unfold Image.pullLen
      rw [some, points]
      simp only [kept_blen, none, Int.toNat_zero, Int.sub_self,
        store_bcopy_zero, made_freedb]
      rfl
    obtain ⟨done, store, left, linked, data⟩ := @pullBlocks_zero
      ⟨(h'.refilled mp md db base 0 0).freedb db, s.store, s.attr⟩ live extra mp
      type bs db h'.made moved message'
    have short := length_le_made kept message.once message.held
    obtain ⟨_, left', pulled⟩ := @Kept.pullBlocks _ _ _ mp type h'.made bs 0
      moved message' (Nat.le_of_succ_le (Nat.le_trans short drawn.grown))
    have extended := @extended_pullBlocks _ _ _ mp type h'.made bs 0 moved
      message'
    have projected := @heap_pullBlocks
      ⟨(h'.refilled mp md db base 0 0).freedb db, s.store, s.attr⟩ mp type db
      h'.made 0
    have heap := congrArg Prod.snd projected
    have left_zero := (congrArg Prod.fst projected).symm.trans done
    simp only [Prod.map_snd] at heap
    rw [heap] at linked data
    obtain ⟨rfl⟩ : left' = left := (List.cons.inj
      (pulled.linked.unique linked)).2
    have own := frame mp member
    rw [blk, if_pos rfl] at own
    have rptr := extended.rptr.trans (congrArg (fun m => m.2.1) own)
    have wptr := extended.wptr.trans (congrArg
      (fun w => w + (0 - _)) (congrArg (fun m => m.2.2.1) own))
    have bare : (Heap.pullBlocks mp type h'.made
        ((h'.refilled mp md db base 0 0).freedb db) 0).2.octets s.store mp =
          [] := by
      apply octets_of_empty
      rw [Heap.blen, rptr, wptr, left_zero]
      exact Int.le_of_eq (by simp [Mdbblock.msgb])
    have before : s.heap.octets s.store mp = [] := octets_of_empty empty
    rw [out]
    refine ⟨decide_eq_true done, ?_⟩
    simp only [heap, store]
    rw [pulled.blocks_eq message', data_cons, bare, data, rest, data_cons,
      before]

end Lengths

section Pullupmsg

variable {s : Image} {cfg : Config} {live : List Nat}
  {extra : Nat → Resource → Nat} {kmemAlloc : Option Addr}
  {lim : Nat → Addr} {ktruesize : Addr → Nat → Nat} {mp : Nat} {len : Int}

theorem blen_le_lead (message : IsMessage s.heap live mp) :
    s.heap.blen mp ≤ s.heap.lead mp := by
  obtain ⟨bs, blocks, _⟩ := message.spec
  have first : s.heap.leading (s.heap.typeOf mp) (mp :: bs) =
      mp :: s.heap.leading (s.heap.typeOf mp) bs := by
    simp [leading]
  rw [lead, blocks, first, room_cons]
  omega

theorem inPlace_still (kept : Kept s.heap (.rest live extra))
    (message : IsMessage s.heap live mp) (within : s.heap.Within lim mp)
    (out : s.pullupmsg cfg kmemAlloc mp len = (true, s))
    (positive : 0 ≤ len) (enough : len ≤ max (s.heap.blen mp) 0) :
    s.PullsInPlace cfg kmemAlloc lim ktruesize mp len := by
  obtain ⟨bs, blocks, message'⟩ := message.spec
  have head := @blen_le_lead s live mp message
  have member := message'.held mp List.mem_cons_self
  constructor
  · exact fun _ => by omega
  · exact fun _ _ => by rw [out]
  · exact fun _ => by rw [out]
  · intro _
    rw [out]
    obtain ⟨d, points, below, above⟩ := within
    refine ⟨d, points, below, ?_⟩
    rw [limits, if_pos (kept.out_of_datap member points)]
    exact above
  · intro _
    rw [out, Image.wanted, if_neg (by omega)]
    simp only
    omega
  · rw [out]
    rintro ⟨⟩

theorem inPlace_failed (failed : (s.pullupmsg cfg kmemAlloc mp len).1 = false)
    (blk : ∀ i, s.heap.Out i →
      (s.pullupmsg cfg kmemAlloc mp len).2.heap.blk i = s.heap.blk i)
    (store : (s.pullupmsg cfg kmemAlloc mp len).2.store = s.store)
    (attr : (s.pullupmsg cfg kmemAlloc mp len).2.attr = s.attr)
    (kept : Kept s.heap (.rest live extra))
    (message : IsMessage s.heap live mp) :
    s.PullsInPlace cfg kmemAlloc lim ktruesize mp len ↔
      ¬ (len ≤ s.heap.lead mp ∧ (len = 0 ∨ s.heap.Permits cfg kmemAlloc)) := by
  constructor
  · rintro holds ⟨enough, permits⟩
    have done := holds.succeeds enough permits
    rw [failed] at done
    cases done
  · intro undue
    have never {p : Prop} :
        (s.pullupmsg cfg kmemAlloc mp len).1 = true → p := by
      rw [failed]
      exact nofun
    refine ⟨never, fun enough permits => absurd ⟨enough, permits⟩ undue, never,
      never, never, fun _ b member => ?_⟩
    have original := message.2.2 b member
    have own := blk b (kept.out_of_live original)
    refine ⟨face_congr own ?_ ?_ (by rw [store]) (by rw [attr]), by rw [own]⟩
    · exact fun d points => blk d (kept.out_of_datap original points)
    · exact fun d _ => by rw [store]

theorem range_end {base first size : Int} {length : Nat} (positive : 0 ≤ size)
    (below : base ≤ first) (above : first + size ≤ base + length)
    (outside : ¬ (base ≤ first ∧ first < base + length)) :
    size = 0 ∧ first = base + length := by
  omega

theorem inPlace_moved {size : Int} (kept : Kept s.heap (.rest live extra))
    (message : IsMessage s.heap live mp)
    (outside : ∀ base ∈ kmemAlloc, s.heap.Outside base)
    (unused : ∀ base ∈ kmemAlloc,
      s.heap.Unused base (ktruesize base size.toNat))
    (out : s.pullupmsg cfg kmemAlloc mp len =
      s.pullLen cfg kmemAlloc mp size (s.heap.typeOf mp))
    (some : len ≠ 0) (enough : len ≤ s.heap.lead mp) (positive : 0 ≤ size)
    (none : size = 0 ↔ len = -1 ∧ s.heap.lead mp = 0) :
    s.PullsInPlace cfg kmemAlloc lim ktruesize mp len ↔
      ¬ s.heap.Permits cfg kmemAlloc ∨
        (len = -1 ∧ s.heap.lead mp = 0 ∧ ∃ base ∈ kmemAlloc,
          ∃ db ∈ (s.heap.blk mp).bDatap,
            (s.heap.blk db).dbBase = base + ktruesize base 0) := by
  obtain ⟨bs, blocks, message'⟩ := message.spec
  have member := message'.held mp List.mem_cons_self
  by_cases permits : s.heap.Permits cfg kmemAlloc
  · obtain ⟨base, answer⟩ := Option.ne_none_iff_exists'.mp permits.2
    subst answer
    obtain ⟨db, md, astray, ends⟩ := @pullLen_astray cfg live extra mp
      (s.heap.typeOf mp) bs size s.heap base kept message' (outside base rfl)
      permits.1
    have projected := @heap_pullLen s cfg (Option.some base) mp
      (s.heap.typeOf mp) size
    have result := congrArg Prod.fst projected
    have heap := congrArg Prod.snd projected
    simp only [Prod.map_fst, Prod.map_snd, id] at result heap
    have base' := congrArg Prod.fst astray.buffer
    have size' := congrArg Prod.snd astray.buffer
    simp only [Mdbblock.buffer] at base' size'
    have limit (h : Heap) (same : h = (s.heap.pullLen cfg (Option.some base) mp
        size (s.heap.typeOf mp)).2) : s.heap.limits h lim ktruesize md =
          base + ktruesize base size.toNat := by
      rw [limits, if_neg astray.fresh, same, base', size']
    simp only [permits, not_true_eq_false, false_or]
    constructor
    · intro holds
      have done := holds.succeeds enough (Or.inr permits)
      obtain ⟨d, points, below, above⟩ := holds.within done
      rw [out] at done points below above
      have wptr := ends (result ▸ done)
      rw [heap] at points below above
      obtain rfl : md = d := Option.some.inj (astray.datap.symm.trans points)
      rw [limit _ rfl, wptr] at above
      rw [base', astray.rptr] at below
      obtain ⟨_, beyond⟩ := unused base rfl db
        (kept.out_of_datap member astray.points)
      obtain ⟨zero, behind⟩ := range_end positive below above beyond
      obtain ⟨all, bare⟩ := none.mp zero
      refine ⟨all, bare, base, rfl, db, astray.points, ?_⟩
      rw [behind, zero]
      rfl
    · rintro ⟨all, bare, same, answer, db', points, behind⟩
      obtain rfl := Option.some.inj answer
      obtain rfl : db = db' := Option.some.inj (astray.points.symm.trans points)
      obtain rfl : size = 0 := none.mpr ⟨all, bare⟩
      have head := @blen_le_lead s live mp message
      obtain ⟨done, data⟩ := @pullLen_zero s cfg live extra mp
        (s.heap.typeOf mp) bs base kept message' (outside base rfl) permits.1
        (by omega)
      have wptr := ends (result ▸ done)
      constructor
      · exact fun _ => enough
      · intro _ _
        rw [out]
        exact done
      · intro _
        rw [out, blocks]
        exact data
      · intro _
        rw [out, heap]
        refine ⟨md, astray.datap, ?_, ?_⟩
        · rw [base', astray.rptr, behind]
          exact Int.le_add_of_nonneg_right (Int.natCast_nonneg _)
        · rw [limit _ rfl, wptr, Int.add_zero, behind]
          exact Int.le_refl _
      · intro _
        rw [Image.wanted, if_pos all, bare]
        exact Nat.zero_le _
      · rw [out, done]
        rintro ⟨⟩
  · obtain ⟨failed, store, attr, blk⟩ := @pullLen_refused s cfg live extra
      kmemAlloc mp (s.heap.typeOf mp) size kept member permits
    rw [← out] at failed store attr blk
    rw [inPlace_failed failed blk store attr kept message]
    apply iff_of_true
    · rintro ⟨_, zero | granted⟩
      · exact some zero
      · exact permits granted
    · exact Or.inl permits

/-- The claim holds of `pullupmsg` where the first block is left as it is, and
where the message has too few octets or nothing is allocated. -/
theorem pullupmsg_iff (kept : Kept s.heap (.rest live extra))
    (message : IsMessage s.heap live mp) (within : s.heap.Within lim mp)
    (bounded : -1 ≤ len)
    (outside : ∀ base ∈ kmemAlloc, s.heap.Outside base)
    (unused : ∀ base ∈ kmemAlloc,
      s.heap.Unused base (ktruesize base (s.heap.asked mp len))) :
    s.PullsInPlace cfg kmemAlloc lim ktruesize mp len ↔
      len = 0 ∨ s.heap.Fast cfg mp len ∨ s.heap.lead mp < len ∨
        ¬ s.heap.Permits cfg kmemAlloc ∨
        (len = -1 ∧ s.heap.lead mp = 0 ∧ ∃ base ∈ kmemAlloc,
          ∃ db ∈ (s.heap.blk mp).bDatap,
            (s.heap.blk db).dbBase = base + ktruesize base 0) := by
  have negative : ¬ len < -1 := by omega
  by_cases still : len = 0 ∨ s.heap.Fast cfg mp len
  · have out : s.pullupmsg cfg kmemAlloc mp len = (true, s) := by
      rw [Image.pullupmsg, if_neg negative]
      exact if_pos still
    have positive : 0 ≤ len := still.elim (fun zero => by omega) fun fast =>
      fast.2.1
    have enough : len ≤ max (s.heap.blen mp) 0 :=
      still.elim (fun zero => by omega) fun fast =>
        Int.le_trans fast.1 (Int.le_max_left _ _)
    refine iff_of_true (inPlace_still kept message within out positive enough) ?_
    exact still.imp id Or.inl
  · obtain ⟨zero, slow⟩ := not_or.mp still
    obtain ⟨more, less⟩ := @pullSize_spec s.heap (some mp) _ len
      (s.heap.typeOf mp) _ message.1 length_blocks_le 0 id
    have lead : s.heap.room (s.heap.leading (s.heap.typeOf mp)
        (s.heap.blocks mp)) = s.heap.lead mp := rfl
    rw [Int.zero_add, lead] at more less
    have unfolded : s.pullupmsg cfg kmemAlloc mp len =
        if (s.heap.pullSize len (s.heap.typeOf mp) s.heap.made (some mp) 0).1
        then s.pullLen cfg kmemAlloc mp (s.heap.pullSize len
          (s.heap.typeOf mp) s.heap.made (some mp) 0).2 (s.heap.typeOf mp)
        else if (s.heap.pullSize len (s.heap.typeOf mp) s.heap.made
          (some mp) 0).2 ≤ len then (false, s)
        else s.pullLen cfg kmemAlloc mp (s.heap.pullSize len
          (s.heap.typeOf mp) s.heap.made (some mp) 0).2 (s.heap.typeOf mp) := by
      rw [Image.pullupmsg, if_neg negative]
      exact if_neg still
    simp only [zero, slow, false_or]
    by_cases short : 0 ≤ len ∧ s.heap.lead mp ≤ len
    · have found := less fun both => by omega
      have out : s.pullupmsg cfg kmemAlloc mp len = (false, s) := by
        rw [unfolded, found]
        simp only [Bool.false_eq_true, if_false, short.2, if_true]
      rw [inPlace_failed (by rw [out]) (fun _ _ => by rw [out]) (by rw [out])
        (by rw [out]) kept message]
      constructor
      · intro undue
        by_cases few : s.heap.lead mp < len
        · exact Or.inl few
        · exact Or.inr (Or.inl fun permits =>
            undue ⟨by omega, Or.inr permits⟩)
      · rintro (few | refused | ⟨all, _⟩) ⟨enough, due⟩
        · omega
        · exact due.elim zero refused
        · omega
    · have enough : len ≤ s.heap.lead mp := by omega
      have few : ¬ (s.heap.lead mp : Int) < len := Int.not_lt.mpr enough
      rw [Heap.asked] at unused
      simp only [few, false_or]
      by_cases all : len = -1
      · have found := less fun both => by omega
        rw [found] at unused
        apply @inPlace_moved s cfg live extra kmemAlloc lim ktruesize mp len
          (s.heap.lead mp) kept message outside unused _ zero enough
          (Int.natCast_nonneg _) (by omega)
        rw [unfolded, found]
        simp only [Bool.false_eq_true, if_false]
        rw [if_neg (by omega)]
      · obtain ⟨count, found, above, _⟩ := more (by omega)
        rw [found] at unused
        apply @inPlace_moved s cfg live extra kmemAlloc lim ktruesize mp len
          count kept message outside unused _ zero enough (by omega) (by omega)
        rw [unfolded, found]
        rfl

theorem pullupmsg_aligned :
    (twoBlocks [.constructed 3000]).image.PullsInPlace ⟨128, 8⟩ (some 9000)
      (fun d => 1000 * (d + 1) + 128) (fun _ size => size) 0 1 :=
  (pullupmsg_iff (s := (twoBlocks _).image) (twoBlocks_kept _)
    (by decide +kernel) ⟨0, by decide +kernel, by decide +kernel⟩ (by decide)
    (by decide +kernel) (by decide +kernel)).mpr
    (Or.inr (Or.inl (by decide +kernel)))

theorem pullupmsg_leaves_its_buffer :
    ¬ ∀ (s : Image) (cfg : Config) (kmemAlloc : Option Addr)
        (lim : Nat → Addr) (ktruesize : Addr → Nat → Nat) (live : List Nat)
        (mp : Nat) (len : Int), Kept s.heap (.rest live fun _ _ => 0) →
      IsMessage s.heap live mp → s.heap.Within lim mp → -1 ≤ len →
        (∀ base ∈ kmemAlloc, s.heap.Outside base) →
          (∀ base ∈ kmemAlloc,
            s.heap.Unused base (ktruesize base (s.heap.asked mp len))) →
            s.PullsInPlace cfg kmemAlloc lim ktruesize mp len := by
  intro claim
  have kept := twoBlocks_kept [.constructed 3000]
  have message : IsMessage (twoBlocks [.constructed 3000]).heap
      (twoBlocks [.constructed 3000]).live 0 := by decide +kernel
  have within : (twoBlocks [.constructed 3000]).heap.Within
      (fun d => 1000 * (d + 1) + 128) 0 :=
    ⟨0, by decide +kernel, by decide +kernel⟩
  have outside : ∀ base ∈ some (9000 : Addr),
      (twoBlocks [.constructed 3000]).heap.Outside base := by decide +kernel
  have unused : ∀ base ∈ some (9000 : Addr),
      (twoBlocks [.constructed 3000]).heap.Unused base
        ((fun _ size => size : Addr → Nat → Nat) base
          ((twoBlocks [.constructed 3000]).heap.asked 0 (-1))) := by
    decide +kernel
  have holds := claim (twoBlocks [.constructed 3000]).image ⟨128, 8⟩
    (some 9000) (fun d => 1000 * (d + 1) + 128) (fun _ size => size) _ 0 (-1)
    kept message within (by decide) outside unused
  have met := (pullupmsg_iff kept message within (by decide) outside
    unused).mp holds
  rcases met with zero | fast | few | refused | ⟨_, none, _⟩
  · exact absurd zero (by decide)
  · exact absurd fast (by decide +kernel)
  · exact absurd few (by decide +kernel)
  · exact absurd refused (by decide +kernel)
  · exact absurd none (by decide +kernel)

end Pullupmsg

end OpenSS7.Mblk
