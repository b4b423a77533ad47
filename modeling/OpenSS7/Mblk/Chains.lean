import Mathlib.Data.List.Perm.Subperm
import OpenSS7.Mblk.Draws

/-!
What the operations on messages do to the accounts of a heap: they keep them,
block by block along `b_cont`, but for a duplicate that is given up.
-/

namespace OpenSS7.Mblk

open Heap

/-- The blocks linked by `b_cont` from a pointer on. -/
def Heap.IsChain (h : Heap) : Option Nat → List Nat → Prop
  | start, [] => start = none
  | start, b :: rest => start = some b ∧ h.IsChain (h.blk b).bCont rest

instance Heap.decidableIsChain (h : Heap) (start : Option Nat) :
    (bs : List Nat) → Decidable (h.IsChain start bs)
  | [] => inferInstanceAs (Decidable (start = none))
  | b :: rest =>
      have := decidableIsChain h (h.blk b).bCont rest
      inferInstanceAs (Decidable (start = some b ∧ _))

/-- The blocks of a message, `fuel` of them at most. -/
def Heap.chain (h : Heap) : Nat → Option Nat → List Nat
  | 0, _ => []
  | _, none => []
  | fuel + 1, some b => b :: h.chain fuel (h.blk b).bCont

def Heap.blocks (h : Heap) (mp : Nat) : List Nat := h.chain h.made (some mp)

section Chain

variable {h h' : Heap} {start : Option Nat} {bs : List Nat}

theorem Heap.IsChain.congr (linked : h.IsChain start bs)
    (same : ∀ b ∈ bs, (h'.blk b).bCont = (h.blk b).bCont) :
    h'.IsChain start bs := by
  induction bs generalizing start with
  | nil => exact linked
  | cons b rest ih =>
      refine ⟨linked.1, ?_⟩
      rw [same b List.mem_cons_self]
      exact ih linked.2 fun c member => same c (List.mem_cons_of_mem _ member)

theorem Heap.IsChain.chain_eq (linked : h.IsChain start bs) {fuel : Nat}
    (enough : bs.length ≤ fuel) : h.chain fuel start = bs := by
  induction bs generalizing start fuel with
  | nil =>
      rw [linked]
      cases fuel <;> rfl
  | cons b rest ih =>
      cases fuel with
      | zero => exact absurd enough (Nat.not_succ_le_zero _)
      | succ fuel =>
          rw [linked.1, Heap.chain, ih linked.2 (Nat.le_of_succ_le_succ enough)]

theorem Heap.IsChain.unique {cs : List Nat} (linked : h.IsChain start bs)
    (other : h.IsChain start cs) : bs = cs := by
  rw [← linked.chain_eq (Nat.le_max_left bs.length cs.length)]
  exact other.chain_eq (Nat.le_max_right bs.length cs.length)

theorem length_le_made {p : Point} (kept : Kept h p) (once : bs.Nodup)
    (held : ∀ b ∈ bs, b ∈ p.live) : bs.length ≤ h.made := by
  have below : bs ⊆ List.range h.made := fun b member =>
    List.mem_range.mpr (kept.out_of_live (held b member)).1
  have short := (once.subperm below).length_le
  rw [List.length_range] at short
  exact short

theorem Heap.IsChain.append_last {mp : Nat} (linked : h.IsChain start bs)
    (once : (bs ++ [mp]).Nodup) (fresh : (h.blk mp).bCont = none) :
    (h.append bs.getLast? mp).IsChain (start.or (some mp)) (bs ++ [mp]) := by
  induction bs generalizing start with
  | nil =>
      rw [linked]
      exact ⟨rfl, fresh⟩
  | cons b rest ih =>
      rw [linked.1]
      refine ⟨rfl, ?_⟩
      have apart := List.nodup_cons.mp once
      cases rest with
      | nil =>
          have strange : mp ≠ b := fun same => apart.1 (by simp [same])
          refine ⟨?_, ?_⟩
          · simp [Heap.append, modify_self]
          · simp [Heap.append, modify_of_ne strange, fresh]
            rfl
      | cons c rest =>
          have last : (b :: c :: rest).getLast? = (c :: rest).getLast? :=
            List.getLast?_cons_cons ..
          have next := ih linked.2 apart.2
          have same : ((h.append (c :: rest).getLast? mp).blk b).bCont =
              some c := by
            rw [← linked.2.1]
            cases tail : (c :: rest).getLast? with
            | none => rfl
            | some t =>
                have member := List.mem_of_getLast? tail
                have foreign : b ≠ t := fun here =>
                  apart.1 (here ▸ List.mem_append_left _ member)
                simp [Heap.append, modify_of_ne foreign]
          rw [last, same]
          rw [linked.2.1] at next
          exact next

end Chain

section Free

variable {h : Heap} {live : List Nat} {extra : Nat → Resource → Nat}

theorem erase_filter {b : Nat} {rest : List Nat} (once : live.Nodup) :
    ((live.erase b).filter fun c => decide (c ∉ rest)) =
      live.filter fun c => decide (c ∉ b :: rest) := by
  rw [once.erase_eq_filter, List.filter_filter]
  apply List.filter_congr
  intro c _
  by_cases here : c = b
  · simp [here]
  · simp [here]

theorem Kept.freemsg {bs : List Nat} {start : Option Nat} {fuel : Nat}
    (kept : Kept h (.rest live extra)) (linked : h.IsChain start bs)
    (once : bs.Nodup) (held : ∀ b ∈ bs, b ∈ live) (enough : bs.length ≤ fuel) :
    Kept (h.freemsg fuel start)
      (.rest (live.filter fun c => decide (c ∉ bs)) extra) := by
  induction bs generalizing h live start fuel with
  | nil =>
      have all : (live.filter fun c => decide (c ∉ ([] : List Nat))) = live := by
        simp
      rw [all, linked]
      cases fuel <;> exact kept
  | cons b rest ih =>
      cases fuel with
      | zero => exact absurd enough (Nat.not_succ_le_zero _)
      | succ fuel =>
          obtain ⟨foreign, apart⟩ := List.nodup_cons.mp once
          have freed := kept.freeb (held b List.mem_cons_self)
          have distinct : live.Nodup := kept.once
          rw [linked.1, Heap.freemsg, ← erase_filter distinct]
          have strange {c : Nat} (member : c ∈ rest) : c ≠ b :=
            fun same => foreign (same ▸ member)
          apply ih freed _ apart
          · intro c member
            exact kept.once.mem_erase_iff.mpr
              ⟨strange member, held c (List.mem_cons_of_mem _ member)⟩
          · exact Nat.le_of_succ_le_succ enough
          · apply linked.2.congr
            intro c member
            have message := msgb_freeb (strange member)
              (kept.attached c (held c (List.mem_cons_of_mem _ member)))
            exact congrArg Prod.fst message

end Free

end OpenSS7.Mblk
