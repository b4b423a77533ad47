import OpenSS7.Mblk.Message

/-!
What a heap of message blocks keeps: the reference counts, the buffers still
to be released and the blocks handed out, between the steps of an operation.
-/

namespace OpenSS7.Mblk

namespace Heap

def pool (h : Heap) : List Nat := h.freemblk ++ h.cache

/-- The blocks handed out by `mdbblock_alloc` and not yet taken back. -/
def Out (h : Heap) (i : Nat) : Prop := i < h.made ∧ i ∉ h.pool

instance (h : Heap) (i : Nat) : Decidable (h.Out i) :=
  inferInstanceAs (Decidable (_ ∧ _))

/-- The message blocks of `live` whose `b_datap` points at the data block. -/
def pointers (h : Heap) (live : List Nat) (d : Nat) : Nat :=
  live.countP fun b => decide ((h.blk b).bDatap = some d)

end Heap

structure Point where
  live : List Nat
  pending : List Nat
  raw : Option Nat
  due : List Nat
  extra : Nat → Resource → Nat

def Point.rest (live : List Nat) (extra : Nat → Resource → Nat) : Point :=
  ⟨live, [], none, [], extra⟩

def Heap.references (h : Heap) (p : Point) (d : Nat) : Nat :=
  h.pointers p.live d + p.pending.count d

def Heap.Holds (h : Heap) (p : Point) (d : Nat) (r : Resource) : Prop :=
  h.references p d ≠ 0 ∧ p.raw ≠ some d ∧ Heap.releases (h.blk d) = some r

instance (h : Heap) (p : Point) (d : Nat) (r : Resource) :
    Decidable (h.Holds p d r) :=
  inferInstanceAs (Decidable (_ ∧ _ ∧ _))

def Heap.Booked (h : Heap) (p : Point) (d : Nat) (r : Resource) : Prop :=
  h.log.count (.took (some d) r) + p.extra d r =
    h.log.count (.gave (some d) r) + if h.Holds p d r then 1 else 0

structure Kept (h : Heap) (p : Point) : Prop where
  once : p.live.Nodup
  pooled : h.pool.Nodup
  made : ∀ i ∈ h.pool, i < h.made
  idle : ∀ i, ¬ h.Out i → i ∉ p.live ∧ h.references p i = 0 ∧ i ∉ p.due
  clean : ∀ i ∈ h.pool, (h.blk i).bDatap = some i ∧ (h.blk i).dbRef = 1 ∧
    (h.blk i).dbFrtnp = none ∧ (h.blk i).bCont = none
  attached : ∀ b ∈ p.live, (h.blk b).bDatap ≠ none
  counted : ∀ d, h.Out d → (h.blk d).dbRef = h.references p d ∧
    h.references p d ≤ 255
  vacant : ∀ i, h.Out i → i ∉ p.live → (h.blk i).bDatap = none
  used : ∀ i, h.Out i → i ∈ p.live ∨ h.references p i ≠ 0 ∨ i ∈ p.due
  booked : ∀ d r, h.Booked p d r
  loose : ∀ r, h.log.count (.took none r) = h.log.count (.gave none r)
  issued : ∀ i, h.log.count (.out i) =
    h.log.count (.back i) + if h.Out i then 1 else 0

section Pointers

variable {h h' : Heap} {live : List Nat}

theorem pointers_congr
    (same : ∀ b ∈ live, (h'.blk b).bDatap = (h.blk b).bDatap) (d : Nat) :
    h'.pointers live d = h.pointers live d :=
  List.countP_congr fun b held => by rw [same b held]

theorem pointers_cons (mp d : Nat) :
    h.pointers (mp :: live) d =
      h.pointers live d + if (h.blk mp).bDatap = some d then 1 else 0 := by
  simp [Heap.pointers, List.countP_cons]

theorem pointers_erase {mp : Nat} (member : mp ∈ live) (d : Nat) :
    h.pointers live d = h.pointers (live.erase mp) d +
      if (h.blk mp).bDatap = some d then 1 else 0 := by
  rw [← pointers_cons]
  exact (List.perm_cons_erase member).countP_eq _

theorem pointers_pos {mp d : Nat} (member : mp ∈ live)
    (points : (h.blk mp).bDatap = some d) : h.pointers live d ≠ 0 := by
  rw [pointers_erase member, if_pos points]
  exact Nat.succ_ne_zero _

end Pointers

namespace Kept

variable {h h' : Heap} {p : Point}

theorem out_of_live (kept : Kept h p) {i : Nat} (member : i ∈ p.live) :
    h.Out i := by
  by_contra idle
  exact (kept.idle i idle).1 member

theorem out_of_references (kept : Kept h p) {d : Nat}
    (some : h.references p d ≠ 0) : h.Out d := by
  by_contra idle
  exact some (kept.idle d idle).2.1

theorem out_of_due (kept : Kept h p) {i : Nat} (member : i ∈ p.due) :
    h.Out i := by
  by_contra idle
  exact (kept.idle i idle).2.2 member

theorem out_of_datap (kept : Kept h p) {mp db : Nat} (member : mp ∈ p.live)
    (points : (h.blk mp).bDatap = some db) : h.Out db := by
  apply kept.out_of_references
  exact fun none => pointers_pos member points (Nat.eq_zero_of_add_eq_zero none).1

end Kept

end OpenSS7.Mblk
