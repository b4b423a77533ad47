import OpenSS7.Mblk.Atomic

/-!
The blocks that wait to be handed out are of type `M_DATA`.
-/

namespace OpenSS7.Mblk

open Heap

def Heap.Plain (h : Heap) : Prop := ∀ i ∈ h.pool, (h.blk i).dbType = MData

instance (h : Heap) : Decidable h.Plain :=
  inferInstanceAs (Decidable (∀ i ∈ h.pool, _))

namespace Heap.Plain

variable {h h' : Heap} {cfg : Config} {live : List Nat}
  {extra : Nat → Resource → Nat} {i : Nat}

theorem modify (plain : h.Plain) {f : Mdbblock → Mdbblock}
    (type : ∀ md, (f md).dbType = md.dbType) : (h.modify i f).Plain := by
  intro j waits
  rw [modify_field Mdbblock.dbType (type _)]
  exact plain j waits

theorem modify_out (plain : h.Plain) {f : Mdbblock → Mdbblock}
    (taken : h.Out i) : (h.modify i f).Plain := by
  intro j waits
  have apart : j ≠ i := fun same => taken.2 (same ▸ waits)
  rw [modify_of_ne apart]
  exact plain j waits

theorem mdbblockFree (plain : h.Plain) : (h.mdbblockFree i).Plain := by
  intro j waits
  by_cases here : j = i
  · rw [here, Heap.mdbblockFree, modify_self]
  · rw [blk_mdbblockFree_of_ne here]
    exact plain j ((mem_pool_mdbblockFree.mp waits).resolve_left here)

theorem drawn (plain : h.Plain) {mp : Nat} (kept : Kept h (.rest live extra))
    (found : h.mdbblockAlloc cfg = (some mp, h')) :
    h'.Plain ∧ (h'.blk mp).dbType = MData := by
  unfold mdbblockAlloc at found
  split at found
  case h_1 md rest list =>
    cases found
    refine ⟨fun j waits => plain j ?_, plain _ (by simp [pool, list])⟩
    simp only [pool, list, List.cons_append]
    exact List.mem_cons_of_mem _ waits
  case h_2 list =>
    unfold mdbblockAllocSlow at found
    split at found
    · cases found
    · cases found
    · cases found
      refine ⟨fun j waits => ?_, by simp [mdbblockCtor]⟩
      have below : j < h.made := kept.made j waits
      simp only [Function.update_of_ne (Nat.ne_of_lt below)]
      exact plain j waits
    · split at found
      case isTrue member =>
        cases found
        refine ⟨fun j waits => plain j ?_, plain _ ?_⟩
        · simp only [pool, List.mem_append] at waits ⊢
          exact waits.imp id List.mem_of_mem_erase
        · exact List.mem_append_right _ member
      · cases found

theorem release (plain : h.Plain) : (h.release i).Plain := by
  intro j waits
  rw [blk_release]
  rw [pool_release] at waits
  exact plain j waits

theorem freedb (plain : h.Plain) : (h.freedb i).Plain := by
  have low : (h.dbDecAndTest i).2.Plain := plain.modify fun _ => rfl
  unfold Heap.freedb
  simp only
  split
  · split
    · exact low.release.mdbblockFree
    · exact low.release
  · exact low

theorem freeb (plain : h.Plain) : (h.freeb i).Plain := by
  unfold Heap.freeb
  split
  · exact plain
  case h_2 db _ =>
    have freed : ((h.modify i fun md =>
        { md with bDatap := none }).freedb db).Plain := by
      apply freedb
      apply plain.modify
      exact fun _ => rfl
    simp only
    split
    · exact freed.mdbblockFree
    · exact freed

theorem freemsg (plain : h.Plain) {fuel : Nat} {start : Option Nat} :
    (h.freemsg fuel start).Plain := by
  induction fuel generalizing h start with
  | zero => exact plain
  | succ fuel ih =>
      cases start with
      | none => exact plain
      | some bp => exact ih plain.freeb

theorem mdbblockAlloc (plain : h.Plain) (kept : Kept h (.rest live extra)) :
    (h.mdbblockAlloc cfg).2.Plain := by
  rcases @mdbblockAlloc_cases _ cfg _ kept with
    ⟨grants, none⟩ | ⟨mp, h', found, _⟩
  · rw [none]
    exact plain
  · rw [found]
    exact (plain.drawn kept found).1

theorem allocb (plain : h.Plain) (kept : Kept h (.rest live extra))
    {memory : Memory} {size : Nat} {skbuff : Bool} :
    (h.allocb cfg memory size skbuff).2.Plain := by
  have drawn := @mdbblockAlloc h cfg _ _ plain kept
  unfold Heap.allocb
  split
  · unfold allocbSkb skballoc
    cases memory.allocSkb with
    | none => exact plain
    | some skb =>
        rcases result : h.mdbblockAlloc cfg with ⟨_ | mp, h'⟩
        · rw [result] at drawn
          exact drawn
        · rw [result] at drawn
          have filled : (h'.modify mp fun md =>
              { md with
                bRptr := skb.data
                bWptr := skb.tail
                dbFrtnp := some ⟨some .freebSkb, skb.skb⟩
                dbBase := skb.head
                dbSize := (skb.fin - skb.head).toNat }).Plain := by
            apply Plain.modify
            · exact drawn
            · exact fun _ => rfl
          exact filled
  · split
    · unfold allocbFast
      rcases result : h.mdbblockAlloc cfg with ⟨_ | mp, h'⟩
      · rw [result] at drawn
        exact drawn
      · rw [result] at drawn
        apply drawn.modify
        exact fun _ => rfl
    · unfold allocbKmem
      cases memory.kmemAlloc with
      | none => exact plain
      | some base =>
          rcases result : h.mdbblockAlloc cfg with ⟨_ | mp, h'⟩
          · rw [result] at drawn
            exact drawn
          · rw [result] at drawn
            have filled : (h'.modify mp fun md =>
                { md with
                  bRptr := base
                  bWptr := base
                  dbBase := base
                  dbSize := size }).Plain := by
              apply Plain.modify
              · exact drawn
              · exact fun _ => rfl
            exact filled

theorem allocb_type (plain : h.Plain) (kept : Kept h (.rest live extra))
    {memory : Memory} {size mp : Nat}
    (found : h.allocb cfg memory size false = (some mp, h')) :
    (h'.blk mp).dbType = MData := by
  unfold Heap.allocb at found
  simp only [Bool.false_eq_true, if_false] at found
  split at found
  · unfold allocbFast at found
    rcases result : h.mdbblockAlloc cfg with ⟨_ | md, h''⟩
    · rw [result] at found
      cases found
    · rw [result] at found
      cases found
      rw [modify_self]
      exact (plain.drawn kept result).2
  · unfold allocbKmem at found
    cases answer : memory.kmemAlloc with
    | none =>
        rw [answer] at found
        cases found
    | some base =>
        rcases result : h.mdbblockAlloc cfg with ⟨_ | md, h''⟩
        · simp only [answer, result] at found
          cases found
        · simp only [answer, result] at found
          cases found
          simp only [note, modify_self]
          exact (plain.drawn kept result).2

theorem esballoc (plain : h.Plain) (kept : Kept h (.rest live extra))
    {base : Addr} {size : Nat} {freeinfo : FreeRtn} :
    (h.esballoc cfg base size freeinfo).2.Plain := by
  have drawn := @mdbblockAlloc h cfg _ _ plain kept
  unfold Heap.esballoc
  rcases result : h.mdbblockAlloc cfg with ⟨_ | mp, h'⟩
  · rw [result] at drawn
    exact drawn
  · rw [result] at drawn
    have filled : (h'.modify mp fun md =>
        { md with
          bRptr := base
          bWptr := base
          dbFrtnp := some freeinfo
          dbBase := base
          dbSize := size }).Plain := by
      apply Plain.modify
      · exact drawn
      · exact fun _ => rfl
    simp only
    split
    · exact filled
    · exact filled

theorem dupb (plain : h.Plain) (kept : Kept h (.rest live extra)) {bp : Nat} :
    (h.dupb cfg bp).2.Plain := by
  have drawn := @mdbblockAlloc h cfg _ _ plain kept
  unfold Heap.dupb
  rcases result : h.mdbblockAlloc cfg with ⟨_ | mp, h'⟩
  · rw [result] at drawn
    exact drawn
  · rw [result] at drawn
    simp only
    split
    · exact drawn
    case h_2 db points =>
      unfold dbInc
      split
      case h_1 h'' counted =>
        split at counted
        · cases counted
          apply Plain.modify
          · apply Plain.modify
            · apply Plain.modify
              · exact drawn
              · exact fun _ => rfl
            · exact fun _ => rfl
          · exact fun _ => rfl
        · cases counted
      case h_2 h'' counted =>
        split at counted
        · cases counted
        · cases counted
          apply freeb
          exact drawn

theorem append (plain : h.Plain) {last : Option Nat} {mp : Nat} :
    (h.append last mp).Plain := by
  cases last with
  | none => exact plain
  | some tail =>
      apply plain.modify
      exact fun _ => rfl

theorem pullBlocks (plain : h.Plain) {mp type fuel : Nat} {size : Int} :
    (Heap.pullBlocks mp type fuel h size).2.Plain := by
  induction fuel generalizing h size with
  | zero => exact plain
  | succ fuel ih =>
      unfold Heap.pullBlocks
      split
      · exact plain
      case h_2 bp _ =>
        have widened (size : Int) : (h.modify mp fun md =>
            { md with bWptr := md.bWptr + size }).Plain := by
          apply plain.modify
          exact fun _ => rfl
        simp only
        split
        · exact plain
        · split
          · have cut : (((h.modify mp fun md =>
                { md with bWptr := md.bWptr + max (h.blen bp) 0 }).unlinkNext mp
                  bp).freeb bp).Plain := by
              apply freeb
              apply (widened _).modify
              exact fun _ => rfl
            split
            · exact cut
            · exact ih cut
          · apply (widened _).modify
            exact fun _ => rfl

theorem pullLen (plain : h.Plain) (kept : Kept h (.rest live extra))
    {kmemAlloc : Option Addr} {mp type : Nat} {size : Int} :
    (h.pullLen cfg kmemAlloc mp size type).2.Plain := by
  unfold Heap.pullLen
  rcases @mdbblockAlloc_cases _ cfg _ kept with
    ⟨grants, none⟩ | ⟨md, h', found, drawn⟩
  · rw [none]
    cases (h.blk mp).bDatap with
    | none => exact plain
    | some db => exact plain
  · rw [found]
    have plain' := (plain.drawn kept found).1
    cases (h.blk mp).bDatap with
    | none => exact plain'
    | some db =>
        cases kmemAlloc with
        | none => exact plain'.mdbblockFree
        | some base =>
            simp only
            apply pullBlocks
            apply freedb
            have taken : h'.Out md := (drawn.out md).mpr (Or.inl rfl)
            have filled : (h'.modify md fun block =>
                { block with
                  bDatap := none
                  dbBase := base
                  dbType := (h'.blk db).dbType
                  dbSize := size.toNat }).Plain := plain'.modify_out taken
            apply Plain.modify
            · exact filled
            · exact fun _ => rfl

theorem pullupmsg (plain : h.Plain) (kept : Kept h (.rest live extra))
    {kmemAlloc : Option Addr} {mp : Nat} {len : Int} :
    (h.pullupmsg cfg kmemAlloc mp len).2.Plain := by
  unfold Heap.pullupmsg
  split
  · exact plain
  · split
    · exact plain
    · simp only
      split
      · exact plain.pullLen kept
      · split
        · exact plain
        · exact plain.pullLen kept

end Heap.Plain

section Runs

variable {h : Heap} {cfg : Config} {live : List Nat}
  {extra : Nat → Resource → Nat}

theorem Heap.Plain.dupmsgFrom {bs dups : List Nat} {start msg : Option Nat}
    {fuel freeFuel : Nat} (plain : h.Plain)
    (kept : Kept h (.rest (dups ++ live) extra))
    (linked : h.IsChain start bs) (held : ∀ b ∈ bs, b ∈ live)
    (copied : h.IsChain msg dups) :
    (Heap.dupmsgFrom cfg freeFuel fuel h start msg dups.getLast?).2.Plain := by
  induction bs generalizing h extra dups start msg fuel with
  | nil =>
      rw [linked]
      cases fuel <;> exact plain
  | cons b rest ih =>
      cases fuel with
      | zero => exact plain
      | succ fuel =>
          have plain' := @Heap.Plain.dupb h cfg _ _ plain kept b
          have begins := linked
          rw [linked.1]
          unfold Heap.dupmsgFrom
          rcases result : h.dupb cfg b with ⟨_ | mp, h'⟩
          · rw [result] at plain'
            exact plain'.freemsg
          · rw [result] at plain'
            have hung := dupb_hung kept begins held copied result
            obtain ⟨extra', kept'⟩ := hung.kept
            have next := @ih (h'.append dups.getLast? mp) extra' (dups ++ [mp])
              _ (msg.or (some mp)) fuel plain'.append kept' hung.linked
              (fun c later => held c (List.mem_cons_of_mem _ later)) hung.copied
            rw [List.getLast?_concat] at next
            exact next

theorem plain_exec {op : Op} {memory : Memory} (plain : h.Plain)
    (kept : Kept h (.rest live extra)) (legal : op.Legal memory h live) :
    (op.exec cfg memory h).2.Plain := by
  cases op with
  | allocb size skbuff => exact plain.allocb kept
  | esballoc base size freeinfo => exact plain.esballoc kept
  | dupb bp => exact plain.dupb kept
  | dupmsg mp =>
      have message : IsMessage h live mp := legal
      exact @Heap.Plain.dupmsgFrom h cfg live extra _ [] _ none _ _ plain kept
        message.1 message.2.2 rfl
  | freeb mp => exact plain.freeb
  | freemsg mp => exact plain.freemsg
  | pullupmsg mp len => exact plain.pullupmsg kept
  | setCont bp cont =>
      apply plain.modify
      exact fun _ => rfl
  | setData bp rptr wptr =>
      apply plain.modify
      exact fun _ => rfl
  | setType bp type =>
      unfold Op.exec
      simp only
      split
      · exact plain
      case h_2 db points =>
        exact plain.modify_out (kept.out_of_datap legal points)
  | freeblocks => exact plain

theorem plain_run {s : Stage} {calls : List Call} (plain : s.heap.Plain)
    (kept : Kept s.heap (.rest s.live extra)) (legal : Legal cfg s calls) :
    (s.run cfg calls).heap.Plain := by
  induction calls generalizing s extra with
  | nil => exact plain
  | cons call rest ih =>
      obtain ⟨extra', _, kept'⟩ :=
        @Op.exec_kept cfg _ _ _ _ _ (kept.regrant call.grants) legal.1
      exact ih (plain_exec plain (kept.regrant call.grants) legal.1) kept'
        legal.2

theorem twoBlocks_plain (grants : List Grant) :
    (twoBlocks grants).heap.Plain :=
  (plain_run (fun _ waits => absurd waits List.not_mem_nil) start_kept
    (by decide +kernel) : (twoBlocks []).heap.Plain)

end Runs

end OpenSS7.Mblk
