import OpenSS7.Mblk.Operations

/-!
Allocation and `pullupmsg`: whatever is answered, the accounts are kept.
-/

namespace OpenSS7.Mblk

open Heap

variable {h : Heap} {cfg : Config} {live : List Nat}
  {extra : Nat → Resource → Nat}

def Heap.Outside (h : Heap) (base : Addr) : Prop :=
  (∀ i < h.made, base ≠ (h.blk i).databuf) ∧ .constructed base ∉ h.grants

instance (h : Heap) (base : Addr) : Decidable (h.Outside base) :=
  inferInstanceAs (Decidable (_ ∧ _))

theorem drawn_outside {p : Point} {mp : Nat} {h' : Heap} {base : Addr}
    (kept : Kept h p) (outside : h.Outside base)
    (found : h.mdbblockAlloc cfg = (some mp, h')) :
    base ≠ (h'.blk mp).databuf := by
  unfold mdbblockAlloc at found
  split at found
  case h_1 md rest list =>
    cases found
    exact outside.1 mp (kept.made mp (by simp [pool, list]))
  case h_2 list =>
    unfold mdbblockAllocSlow at found
    split at found
    · cases found
    · cases found
    case h_3 databuf rest grants =>
      cases found
      intro same
      apply outside.2
      rw [grants, same]
      simp [mdbblockCtor]
    case h_4 md rest grants =>
      split at found
      next member =>
        cases found
        exact outside.1 mp (kept.made mp (by simp [pool, member]))
      · cases found

theorem Kept.giveUp {p : Point} (kept : Kept h p) (resource : Resource) :
    Kept (h.giveUp resource) p := by
  refine ⟨kept.once, kept.pooled, kept.made, kept.idle, kept.clean,
    kept.attached, kept.counted, kept.vacant, kept.used, ?_, ?_, ?_⟩
  · intro d r
    refine (kept.booked d r).carry rfl ?_ ?_ Iff.rfl
    · simp [Heap.giveUp, note]
    · simp [Heap.giveUp, note]
  · intro r
    simp [Heap.giveUp, note, List.count_cons, kept.loose r]
  · intro i
    have outs : (h.giveUp resource).log.count (.out i) =
        h.log.count (.out i) := by simp [Heap.giveUp, note]
    have backs : (h.giveUp resource).log.count (.back i) =
        h.log.count (.back i) := by simp [Heap.giveUp, note]
    rw [outs, backs]
    exact kept.issued i

section Alloc

variable {mp : Nat} {h' : Heap} {owed : Option Resource}
  {f : Mdbblock → Mdbblock}

theorem Kept.alloc (kept : Kept h (.rest live extra)) (drawn : Drawn h mp h')
    (datap : (f (h'.blk mp)).bDatap = (h'.blk mp).bDatap)
    (ref : (f (h'.blk mp)).dbRef = (h'.blk mp).dbRef)
    (owes : releases (f (h'.blk mp)) = owed) :
    Kept ((h'.modify mp f).takes mp owed) (.rest (mp :: live) extra) := by
  rw [← owes]
  exact (kept.draw drawn).enter drawn.datap datap ref

theorem Kept.esballoc {base : Addr} {size : Nat} {freeinfo : FreeRtn}
    (kept : Kept h (.rest live extra)) (outside : h.Outside base) :
    Kept (h.esballoc cfg base size freeinfo).2
      (.rest ((h.esballoc cfg base size freeinfo).1.toList ++ live) extra) := by
  unfold Heap.esballoc
  rcases @mdbblockAlloc_cases _ cfg _ kept with
    ⟨grants, none⟩ | ⟨mp, h', found, drawn⟩
  · rw [none]
    exact kept.regrant grants
  · rw [found]
    have apart := drawn_outside kept outside found
    have held : Kept ((h'.modify mp fun md => { md with
          bRptr := base
          bWptr := base
          dbFrtnp := some freeinfo
          dbBase := base
          dbSize := size }).takes mp
        (freeinfo.freeFunc.map fun freeFunc =>
          .routine freeFunc freeinfo.freeArg)) (.rest (mp :: live) extra) :=
      kept.alloc drawn rfl rfl (by simp [releases, apart])
    simp only
    cases func : freeinfo.freeFunc with
    | none =>
        rw [func] at held
        exact held
    | some freeFunc =>
        rw [func] at held
        exact held

theorem Kept.skballoc {skb : SkBuff} (kept : Kept h (.rest live extra))
    (outside : h.Outside skb.head) :
    Kept (h.skballoc cfg skb).2
      (.rest ((h.skballoc cfg skb).1.toList ++ live) extra) := by
  unfold Heap.skballoc
  rcases @mdbblockAlloc_cases _ cfg _ kept with
    ⟨grants, none⟩ | ⟨mp, h', found, drawn⟩
  · rw [none]
    exact kept.regrant grants
  · rw [found]
    have apart := drawn_outside kept outside found
    exact @Kept.alloc _ _ _ _ _ (some (.routine .freebSkb skb.skb))
      (fun md => { md with
        bRptr := skb.data
        bWptr := skb.tail
        dbFrtnp := some ⟨some .freebSkb, skb.skb⟩
        dbBase := skb.head
        dbSize := (skb.fin - skb.head).toNat })
      kept drawn rfl rfl (by simp [releases, apart])

theorem Kept.allocbSkb {allocSkb : Option SkBuff}
    (kept : Kept h (.rest live extra))
    (outside : ∀ skb ∈ allocSkb, h.Outside skb.head) :
    Kept (h.allocbSkb cfg allocSkb).2
      (.rest ((h.allocbSkb cfg allocSkb).1.toList ++ live) extra) := by
  unfold Heap.allocbSkb
  cases allocSkb with
  | none => exact kept
  | some skb =>
      have held := @Kept.skballoc _ cfg _ _ _ kept (outside skb rfl)
      simp only
      split
      case h_1 mp h' found =>
        rw [found] at held
        exact held
      case h_2 h' none =>
        rw [none] at held
        exact held.giveUp _

theorem Kept.allocbFast {size : Nat} (kept : Kept h (.rest live extra)) :
    Kept (h.allocbFast cfg size).2
      (.rest ((h.allocbFast cfg size).1.toList ++ live) extra) := by
  unfold Heap.allocbFast
  rcases @mdbblockAlloc_cases _ cfg _ kept with
    ⟨grants, none⟩ | ⟨mp, h', found, drawn⟩
  · rw [none]
    exact kept.regrant grants
  · rw [found]
    exact @Kept.alloc _ _ _ _ _ none
      (fun md => { md with
        bRptr := (h'.blk mp).databuf
        bWptr := (h'.blk mp).databuf
        dbBase := (h'.blk mp).databuf
        dbSize := size })
      kept drawn rfl rfl (by simp [releases])

theorem Kept.allocbKmem {size : Nat} {kmemAlloc : Option Addr}
    (kept : Kept h (.rest live extra))
    (outside : ∀ base ∈ kmemAlloc, h.Outside base) :
    Kept (h.allocbKmem cfg size kmemAlloc).2
      (.rest ((h.allocbKmem cfg size kmemAlloc).1.toList ++ live) extra) := by
  unfold Heap.allocbKmem
  cases kmemAlloc with
  | none => exact kept
  | some base =>
      rcases @mdbblockAlloc_cases _ cfg _ kept with
        ⟨grants, none⟩ | ⟨mp, h', found, drawn⟩
      · simp only [none]
        exact (kept.regrant grants).giveUp _
      · simp only [found]
        have apart := drawn_outside kept (outside base rfl) found
        exact @Kept.alloc _ _ _ _ _ (some (.kmem base size))
          (fun md => { md with
            bRptr := base
            bWptr := base
            dbBase := base
            dbSize := size })
          kept drawn rfl rfl (by simp [releases, apart, drawn.frtnp])

def Memory.Outside (memory : Memory) (h : Heap) : Prop :=
  (∀ base ∈ memory.kmemAlloc, h.Outside base) ∧
    ∀ skb ∈ memory.allocSkb, h.Outside skb.head

instance (memory : Memory) (h : Heap) : Decidable (memory.Outside h) :=
  inferInstanceAs (Decidable ((∀ base ∈ memory.kmemAlloc, h.Outside base) ∧
    ∀ skb ∈ memory.allocSkb, h.Outside skb.head))

theorem Kept.allocb {memory : Memory} {size : Nat} {skbuff : Bool}
    (kept : Kept h (.rest live extra)) (outside : memory.Outside h) :
    Kept (h.allocb cfg memory size skbuff).2
      (.rest ((h.allocb cfg memory size skbuff).1.toList ++ live) extra) := by
  unfold Heap.allocb
  split
  · exact kept.allocbSkb outside.2
  · split
    · exact kept.allocbFast
    · exact kept.allocbKmem outside.1

end Alloc

end OpenSS7.Mblk
