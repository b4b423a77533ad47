import OpenSS7.Mblk.Moves
import OpenSS7.Mblk.Chains

/-!
The octets of a message: what the buffers of its data blocks hold between the
read and the write pointers of its blocks.
-/

namespace OpenSS7.Mblk

abbrev Store := Nat → Addr → UInt8

namespace Heap

variable (h : Heap) (store : Store)

/-- The octets of a block, none where `b_wptr <= b_rptr`. -/
def octets (b : Nat) : List UInt8 :=
  (List.range (h.blen b).toNat).map fun k : Nat =>
    store ((h.blk b).bDatap.getD b) ((h.blk b).bRptr + (k : Int))

def data (bs : List Nat) : List UInt8 := bs.flatMap (h.octets store)

def room (bs : List Nat) : Nat := (bs.map fun b => (h.blen b).toNat).sum

end Heap

section Octets

open Heap

variable {h h' : Heap} {store : Store} {b : Nat} {bs : List Nat}

theorem length_octets : (h.octets store b).length = (h.blen b).toNat := by
  simp [Heap.octets]

theorem length_data : (h.data store bs).length = h.room bs := by
  simp [Heap.data, Heap.room, length_octets, Function.comp_def]

theorem room_cons : h.room (b :: bs) = (h.blen b).toNat + h.room bs := by
  simp [Heap.room]

theorem room_append (cs : List Nat) :
    h.room (bs ++ cs) = h.room bs + h.room cs := by
  simp [Heap.room]

theorem data_cons :
    h.data store (b :: bs) = h.octets store b ++ h.data store bs := by
  simp [Heap.data]

theorem octets_of_empty (empty : h.blen b ≤ 0) : h.octets store b = [] := by
  simp [Heap.octets, Int.toNat_of_nonpos empty]

theorem octets_congr (rptr : (h'.blk b).bRptr = (h.blk b).bRptr)
    (wptr : (h'.blk b).bWptr = (h.blk b).bWptr)
    (datap : (h'.blk b).bDatap = (h.blk b).bDatap) :
    h'.octets store b = h.octets store b := by
  simp only [Heap.octets, Heap.blen, rptr, wptr, datap]

theorem octets_of_blk (same : h'.blk b = h.blk b) :
    h'.octets store b = h.octets store b :=
  octets_congr (by rw [same]) (by rw [same]) (by rw [same])

theorem data_congr (same : ∀ b ∈ bs, h'.blk b = h.blk b) :
    h'.data store bs = h.data store bs := by
  induction bs with
  | nil => rfl
  | cons b rest ih =>
      have rest := ih fun c member => same c (List.mem_cons_of_mem _ member)
      rw [data_cons, data_cons, rest,
        octets_of_blk (same b List.mem_cons_self)]

theorem room_congr (same : ∀ b ∈ bs, h'.blk b = h.blk b) :
    h'.room bs = h.room bs := by
  have before := @length_data h (fun _ _ => 0) bs
  have after := @length_data h' (fun _ _ => 0) bs
  rw [data_congr same, before] at after
  exact after.symm

theorem octets_advance {count : Int} (positive : 0 ≤ count) :
    (h.modify b fun md => { md with bRptr := md.bRptr + count }).octets store
      b = (h.octets store b).drop count.toNat := by
  apply List.ext_getElem
  · simp only [List.length_drop, length_octets, Heap.blen, modify_self]
    omega
  · intro k _ _
    simp only [Heap.octets, modify_self, List.getElem_map, List.getElem_range,
      List.getElem_drop]
    rw [Int.natCast_add, Int.toNat_of_nonneg positive, Int.add_assoc]

theorem length_chain_le {fuel : Nat} {start : Option Nat} :
    (h.chain fuel start).length ≤ fuel := by
  induction fuel generalizing start with
  | zero => exact Nat.le_refl 0
  | succ fuel ih =>
      cases start with
      | none => exact Nat.zero_le _
      | some b => exact Nat.succ_le_succ ih

theorem length_blocks_le {mp : Nat} : (h.blocks mp).length ≤ h.made :=
  length_chain_le

theorem blocks_congr {mp : Nat} (linked : h.IsChain (some mp) (h.blocks mp))
    (made : h'.made = h.made)
    (cont : ∀ b ∈ h.blocks mp, (h'.blk b).bCont = (h.blk b).bCont) :
    h'.blocks mp = h.blocks mp := by
  have linked' : h'.IsChain (some mp) (h.blocks mp) := linked.congr cont
  rw [blocks, made]
  exact linked'.chain_eq length_blocks_le

end Octets

end OpenSS7.Mblk
