import OpenSS7.Mblk.Buffers

/-!
`pullupmsg` keeps the accounts: the blocks it takes in are freed, the others
stay linked.
-/

namespace OpenSS7.Mblk

open Heap

variable {h : Heap} {cfg : Config} {live : List Nat}
  {extra : Nat → Resource → Nat}

/-- The message begins with `mp` and goes on with `bs`, all in use. -/
structure Message (h : Heap) (live : List Nat) (mp : Nat) (bs : List Nat) :
    Prop where
  linked : h.IsChain (some mp) (mp :: bs)
  once : (mp :: bs).Nodup
  held : ∀ b ∈ mp :: bs, b ∈ live

structure Pulled (h' : Heap) (live : List Nat) (extra : Nat → Resource → Nat)
    (mp : Nat) (bs taken left : List Nat) : Prop where
  whole : bs = taken ++ left
  kept : Kept h' (.rest (live.filter fun c => decide (c ∉ taken)) extra)
  linked : h'.IsChain (some mp) (mp :: left)

theorem Pulled.nothing {h' : Heap} {mp : Nat} {bs : List Nat}
    (kept : Kept h' (.rest live extra))
    (linked : h'.IsChain (some mp) (mp :: bs)) :
    Pulled h' live extra mp bs [] bs := by
  refine ⟨rfl, ?_, linked⟩
  have all : (live.filter fun c => decide (c ∉ ([] : List Nat))) = live := by
    simp
  rw [all]
  exact kept

section Cut

variable {mp bp : Nat} {rest : List Nat} {blen : Int}

def Heap.cut (h : Heap) (mp bp : Nat) (blen : Int) : Heap :=
  ((h.modify mp fun md => { md with bWptr := md.bWptr + blen }).unlinkNext mp
    bp).freeb bp

theorem Kept.cut (kept : Kept h (.rest live extra))
    (message : Message h live mp (bp :: rest)) :
    Kept (h.cut mp bp blen) (.rest (live.erase bp) extra) ∧
      Message (h.cut mp bp blen) (live.erase bp) mp rest := by
  have taken := kept.out_of_live (message.held mp List.mem_cons_self)
  have behind : bp ∈ live :=
    message.held bp (List.mem_cons_of_mem _ List.mem_cons_self)
  obtain ⟨first, once⟩ := List.nodup_cons.mp message.once
  have apart : bp ≠ mp := fun same => first (same ▸ List.mem_cons_self)
  have distinct : live.Nodup := kept.once
  have widened : Kept (h.modify mp fun md =>
      { md with bWptr := md.bWptr + blen }) (.rest live extra) :=
    kept.write taken rfl rfl rfl
  have unlinked := widened.write (i := mp) (f := fun md =>
    { md with bCont := ((h.modify mp fun md =>
      { md with bWptr := md.bWptr + blen }).blk bp).bCont })
    taken rfl rfl rfl
  have cont : (((h.modify mp fun md =>
      { md with bWptr := md.bWptr + blen }).unlinkNext mp bp).blk mp).bCont =
      (h.blk bp).bCont := by
    unfold unlinkNext
    rw [modify_self]
    simp only
    rw [modify_of_ne apart]
  have others {b : Nat} (strange : b ≠ mp) : ((h.modify mp fun md =>
      { md with bWptr := md.bWptr + blen }).unlinkNext mp bp).blk b =
      h.blk b := by
    unfold unlinkNext
    rw [modify_of_ne strange, modify_of_ne strange]
  have frame {b : Nat} (member : b ∈ live) (strange : b ≠ bp) :
      ((h.cut mp bp blen).blk b).bCont = (((h.modify mp fun md =>
        { md with bWptr := md.bWptr + blen }).unlinkNext mp bp).blk b).bCont :=
    congrArg Prod.fst (msgb_freeb strange (unlinked.attached b member))
  have held {b : Nat} (member : b ∈ mp :: rest) : b ∈ live ∧ b ≠ bp := by
    rcases List.mem_cons.mp member with here | later
    · exact ⟨message.held b (here ▸ List.mem_cons_self),
        fun same => apart (same.symm.trans here)⟩
    · refine ⟨message.held b (List.mem_cons_of_mem _
        (List.mem_cons_of_mem _ later)), fun same => ?_⟩
      exact (List.nodup_cons.mp once).1 (same ▸ later)
  refine ⟨unlinked.freeb behind, ⟨rfl, ?_⟩, ?_, ?_⟩
  · rw [frame (message.held mp List.mem_cons_self) (Ne.symm apart), cont]
    apply message.linked.2.2.congr
    intro b later
    obtain ⟨member, strange⟩ := held (List.mem_cons_of_mem mp later)
    rw [frame member strange, others]
    exact fun same => first (List.mem_cons_of_mem _ (same ▸ later))
  · exact List.nodup_cons.mpr ⟨fun later => first
      (List.mem_cons_of_mem _ later), (List.nodup_cons.mp once).2⟩
  · intro b member
    exact distinct.mem_erase_iff.mpr ⟨(held member).2, (held member).1⟩

end Cut

theorem Pulled.after_cut {h' : Heap} {mp bp : Nat} {rest taken left : List Nat}
    (distinct : live.Nodup)
    (pulled : Pulled h' (live.erase bp) extra mp rest taken left) :
    Pulled h' live extra mp (bp :: rest) (bp :: taken) left := by
  refine ⟨by rw [pulled.whole]; rfl, ?_, pulled.linked⟩
  rw [← erase_filter distinct]
  exact pulled.kept

theorem Kept.pullBlocks {mp type fuel : Nat} {bs : List Nat} {size : Int}
    (kept : Kept h (.rest live extra)) (message : Message h live mp bs)
    (enough : bs.length ≤ fuel) :
    ∃ taken left, Pulled (Heap.pullBlocks mp type fuel h size).2 live extra mp
      bs taken left := by
  induction bs generalizing h live size fuel with
  | nil =>
      refine ⟨[], [], ?_⟩
      cases fuel with
      | zero => exact .nothing kept message.linked
      | succ fuel =>
          have last : (h.blk mp).bCont = none := message.linked.2
          rw [Heap.pullBlocks, last]
          exact .nothing kept message.linked
  | cons bp rest ih =>
      cases fuel with
      | zero => exact absurd enough (Nat.not_succ_le_zero _)
      | succ fuel =>
          have next : (h.blk mp).bCont = some bp := message.linked.2.1
          have distinct : live.Nodup := kept.once
          have behind : bp ∈ live :=
            message.held bp (List.mem_cons_of_mem _ List.mem_cons_self)
          rw [Heap.pullBlocks, next]
          simp only
          split
          · exact ⟨[], bp :: rest, .nothing kept message.linked⟩
          · split
            · obtain ⟨freed, message'⟩ :=
                @Kept.cut _ _ _ _ _ _ (max (h.blen bp) 0) kept message
              split
              · exact ⟨[bp], rest,
                  (Pulled.nothing freed message'.linked).after_cut distinct⟩
              · obtain ⟨taken, left, pulled⟩ := ih freed message'
                  (Nat.le_of_succ_le_succ enough)
                exact ⟨bp :: taken, left, pulled.after_cut distinct⟩
            · refine ⟨[], bp :: rest, ?_⟩
              apply Pulled.nothing
              · have widened : Kept (h.modify mp fun md =>
                    { md with bWptr := md.bWptr + size })
                    (.rest live extra) :=
                  kept.write (kept.out_of_live
                    (message.held mp List.mem_cons_self)) rfl rfl rfl
                exact widened.write (f := fun md =>
                    { md with bRptr := md.bRptr + size })
                  (kept.out_of_live behind) rfl rfl rfl
              · apply message.linked.congr
                intro b member
                rw [modify_field Mdbblock.bCont rfl,
                  modify_field Mdbblock.bCont rfl]

theorem Message.congr {h' : Heap} {mp : Nat} {bs : List Nat}
    (message : Message h live mp bs)
    (same : ∀ b ∈ live, (h'.blk b).bCont = (h.blk b).bCont) :
    Message h' live mp bs :=
  ⟨message.linked.congr fun b member => same b (message.held b member),
    message.once, message.held⟩

section Pull

variable {mp md db : Nat} {h' : Heap} {base : Addr} {size : Nat} {blen : Int}

def Heap.refilled (h : Heap) (mp md db : Nat) (base : Addr) (size : Nat)
    (blen : Int) : Heap :=
  let h := h.modify md fun block =>
    { block with
      bDatap := none
      dbBase := base
      dbType := (h.blk db).dbType
      dbSize := size }
  let h := h.note (.took (some md) (.kmem base size))
  h.modify mp fun block =>
    { block with
      bRptr := (h.blk db).dbBase
      bWptr := (h.blk db).dbBase + blen
      bDatap := some md }

theorem blk_refilled (apart : mp ≠ md) (source : db ≠ md) (i : Nat) :
    (h.refilled mp md db base size blen).blk i =
      if i = mp then
        { h.blk mp with
          bRptr := (h.blk db).dbBase
          bWptr := (h.blk db).dbBase + blen
          bDatap := some md }
      else if i = md then
        { h.blk md with
          bDatap := none
          dbBase := base
          dbType := (h.blk db).dbType
          dbSize := size }
      else h.blk i := by
  unfold refilled note
  simp only
  by_cases here : i = mp
  · rw [if_pos here, here, modify_self]
    simp only [modify_of_ne apart, modify_of_ne source]
  · rw [if_neg here, modify_of_ne here]
    simp only
    by_cases there : i = md
    · rw [if_pos there, there, modify_self]
    · rw [if_neg there, modify_of_ne there]

theorem Kept.refill (kept : Kept h (.rest live extra)) (drawn : Drawn h md h')
    (member : mp ∈ live) (points : (h.blk mp).bDatap = some db)
    (apart : base ≠ (h'.blk md).databuf) :
    Kept (h'.refilled mp md db base size blen) ⟨live, [db], none, [], extra⟩ ∧
      ∀ b ∈ live, ((h'.refilled mp md db base size blen).blk b).bCont =
        (h.blk b).bCont := by
  have strange := drawn.apart (kept.out_of_live member)
  have source := drawn.apart (kept.out_of_datap member points)
  have blk := @blk_refilled h' mp md db base size blen strange source
  have fresh : (h'.refilled mp md db base size blen).blk md =
      { h'.blk md with
        bDatap := none
        dbBase := base
        dbType := (h'.blk db).dbType
        dbSize := size } := by
    rw [blk, if_neg (Ne.symm strange), if_pos rfl]
  constructor
  · apply @Kept.swap _ _ _ _ (h'.refilled mp md db base size blen) _ _ _
      (kept.draw drawn) drawn.datap member
      (by rw [drawn.others mp strange, points]) rfl rfl rfl
    · rw [fresh]
    · rw [blk, if_pos rfl]
    · intro i other foreign
      rw [blk, if_neg foreign, if_neg other]
    · intro i
      rw [blk]
      split
      case isTrue here => rw [here]
      case isFalse =>
        split
        case isTrue here => rw [here]
        case isFalse => rfl
    · rw [fresh]
      simp [releases, apart, drawn.frtnp]
    · intro i other
      rw [blk]
      split
      case isTrue here => rw [here]; rfl
      case isFalse => rfl
    · intro i waits
      have foreign : i ≠ md := by
        intro same
        rw [drawn.pool, same] at waits
        exact kept.pooled.not_mem_erase waits
      have idle : i ≠ mp := by
        intro same
        rw [drawn.pool, same] at waits
        exact (kept.out_of_live member).2 (List.mem_of_mem_erase waits)
      rw [blk, if_neg idle, if_neg foreign]
  · intro b held
    have other := drawn.apart (kept.out_of_live held)
    rw [blk, ← drawn.others b other]
    split
    case isTrue here => rw [here]
    case isFalse => rfl

theorem Kept.moved {bs : List Nat} (kept : Kept h (.rest live extra))
    (message : Message h live mp bs) (drawn : Drawn h md h')
    (points : (h.blk mp).bDatap = some db)
    (apart : base ≠ (h'.blk md).databuf) :
    Kept ((h'.refilled mp md db base size blen).freedb db)
        (.rest live extra) ∧
      Message ((h'.refilled mp md db base size blen).freedb db) live mp bs ∧
        ∀ b ∈ live, (((h'.refilled mp md db base size blen).freedb db).blk
          b).msgb = ((h'.refilled mp md db base size blen).blk b).msgb := by
  have member := message.held mp List.mem_cons_self
  obtain ⟨swapped, conts⟩ :=
    @Kept.refill _ _ _ _ _ _ _ _ size blen kept drawn member points apart
  have released := swapped.freedb
  have same : excess (h'.refilled mp md db base size blen)
      ⟨live, [], none, [], extra⟩ db = extra := by
    funext d r
    simp [excess_apply]
  rw [same] at released
  have frame {b : Nat} (held : b ∈ live) :
      (((h'.refilled mp md db base size blen).freedb db).blk b).msgb =
        ((h'.refilled mp md db base size blen).blk b).msgb :=
    msgb_freedb (swapped.attached b held)
  refine ⟨released, message.congr fun b held => ?_, fun b => frame⟩
  rw [← conts b held]
  exact congrArg Prod.fst (frame held)

theorem Kept.pullLen {bs : List Nat} {kmemAlloc : Option Addr} {octets : Int}
    {type : Nat} (kept : Kept h (.rest live extra))
    (message : Message h live mp bs)
    (outside : ∀ base ∈ kmemAlloc, h.Outside base) :
    ∃ taken left, Pulled (h.pullLen cfg kmemAlloc mp octets type).2 live extra mp
      bs taken left := by
  have member := message.held mp List.mem_cons_self
  obtain ⟨db, points⟩ :=
    Option.ne_none_iff_exists'.mp (kept.attached mp member)
  unfold Heap.pullLen
  rcases @mdbblockAlloc_cases _ cfg _ kept with
    ⟨grants, none⟩ | ⟨md, h', found, drawn⟩
  · rw [none, points]
    refine ⟨[], bs, .nothing (kept.regrant grants) ?_⟩
    exact message.linked.congr fun _ _ => rfl
  · rw [found, points]
    simp only
    cases kmemAlloc with
    | none =>
        refine ⟨[], bs, .nothing (drawn.undo kept) ?_⟩
        apply message.linked.congr
        intro b held
        have other := drawn.apart (kept.out_of_live (message.held b held))
        rw [blk_mdbblockFree_of_ne other, drawn.others b other]
    | some base =>
        have apart := drawn_outside kept (outside base rfl) found
        have pulls (blen wanting : Int) (fuel : Nat) (enough : h.made ≤ fuel) :
            ∃ taken left, Pulled (Heap.pullBlocks mp type fuel
              ((h'.refilled mp md db base octets.toNat blen).freedb db)
              wanting).2 live extra mp bs taken left := by
          obtain ⟨moved, message', _⟩ :=
            @Kept.moved _ _ _ _ _ _ _ _ octets.toNat blen bs kept message drawn
              points apart
          apply moved.pullBlocks message'
          exact Nat.le_trans (length_le_made kept
            (List.nodup_cons.mp message.once).2 fun b later =>
              message.held b (List.mem_cons_of_mem _ later)) enough
        apply pulls
        rw [made_freedb]
        exact drawn.grown

theorem Kept.pullupmsg {bs : List Nat} {kmemAlloc : Option Addr} {len : Int}
    (kept : Kept h (.rest live extra)) (message : Message h live mp bs)
    (outside : ∀ base ∈ kmemAlloc, h.Outside base) :
    ∃ taken left, Pulled (h.pullupmsg cfg kmemAlloc mp len).2 live extra mp
      bs taken left := by
  unfold Heap.pullupmsg
  split
  · exact ⟨[], bs, .nothing kept message.linked⟩
  · split
    · exact ⟨[], bs, .nothing kept message.linked⟩
    · simp only
      split
      · exact kept.pullLen message outside
      · split
        · exact ⟨[], bs, .nothing kept message.linked⟩
        · exact kept.pullLen message outside

end Pull

end OpenSS7.Mblk
