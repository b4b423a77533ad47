import Mathlib.Data.List.Nodup

/-!
Linked lists whose nodes point back at the slot that holds them: a slot is
the head of the list or the forward link of a node.
-/

namespace BackLinkedList

variable {π α : Type*} {slot : α → π} {read read' : π → Option α}
  {back back' : α → π} {p : π} {l a b : List α} {node : α}

/-- The slot at which the nodes of `l` end. -/
def lastSlot (slot : α → π) : π → List α → π
  | p, [] => p
  | _, node :: rest => lastSlot slot (slot node) rest

/-- The nodes of `l` are entered one after the other from the slot `p`, and
each points back at the slot that holds it. -/
def Path (slot : α → π) (read : π → Option α) (back : α → π) :
    π → List α → Prop
  | _, [] => True
  | p, node :: rest =>
      read p = some node ∧ back node = p ∧
        Path slot read back (slot node) rest

structure Chain (slot : α → π) (read : π → Option α) (back : α → π)
    (p : π) (l : List α) : Prop where
  slots : (p :: l.map slot).Nodup
  path : Path slot read back p l
  finish : read (lastSlot slot p l) = none

theorem lastSlot_append :
    lastSlot slot p (a ++ b) = lastSlot slot (lastSlot slot p a) b := by
  induction a generalizing p with
  | nil => rfl
  | cons node rest ih => exact ih

theorem lastSlot_mem : lastSlot slot p l ∈ p :: l.map slot := by
  induction l generalizing p with
  | nil => exact List.mem_singleton.2 rfl
  | cons node rest ih => exact List.mem_cons_of_mem _ ih

theorem path_append :
    Path slot read back p (a ++ b) ↔
      Path slot read back p a ∧
        Path slot read back (lastSlot slot p a) b := by
  induction a generalizing p with
  | nil => simp [Path, lastSlot]
  | cons node rest ih =>
      simp only [List.cons_append, Path, lastSlot, ih]
      tauto

theorem path_congr (slots : (p :: l.map slot).Nodup)
    (hread : ∀ q ∈ p :: l.map slot, q ≠ lastSlot slot p l →
      read' q = read q)
    (hback : ∀ node ∈ l, back' node = back node)
    (path : Path slot read back p l) : Path slot read' back' p l := by
  induction l generalizing p with
  | nil => trivial
  | cons node rest ih =>
      obtain ⟨here, behind, ahead⟩ := path
      rw [List.map_cons, List.nodup_cons] at slots
      refine ⟨?_, ?_, ?_⟩
      · rw [hread p (by simp) ?_, here]
        intro eq
        exact slots.1 (eq ▸ lastSlot_mem)
      · rw [hback node (by simp), behind]
      · refine ih slots.2 ?_ ?_ ahead
        · exact fun q member different =>
            hread q (List.mem_cons_of_mem _ member) different
        · exact fun other member => hback other (by simp [member])

theorem read_lastSlot (path : Path slot read back p (a ++ node :: b)) :
    read (lastSlot slot p a) = some node ∧
      back node = lastSlot slot p a ∧
      Path slot read back (slot node) b :=
  (path_append.1 path).2

namespace Chain

theorem next_eq (chain : Chain slot read back p (a ++ node :: b)) :
    read (slot node) = b.head? := by
  obtain ⟨_, _, ahead⟩ := read_lastSlot chain.path
  cases b with
  | nil =>
      have finish := chain.finish
      rw [lastSlot_append] at finish
      exact finish
  | cons next rest => exact ahead.1

theorem split (chain : Chain slot read back p (a ++ node :: b)) :
    lastSlot slot p a ≠ slot node ∧
      (∀ q ∈ slot node :: b.map slot, q ≠ lastSlot slot p a) ∧
      ∀ q ∈ p :: a.map slot, q ∉ slot node :: b.map slot := by
  have slots := chain.slots
  rw [List.map_append, List.map_cons, ← List.cons_append] at slots
  have disjoint := List.disjoint_of_nodup_append slots
  refine ⟨?_, ?_, ?_⟩
  · intro eq
    exact disjoint lastSlot_mem (eq ▸ List.mem_cons_self)
  · intro q member eq
    exact disjoint lastSlot_mem (eq ▸ member)
  · exact fun q member member' => disjoint member member'

theorem append (chain : Chain slot read back p l)
    (fresh : slot node ∉ p :: l.map slot) (off : node ∉ l)
    (here : read' (lastSlot slot p l) = some node)
    (finish : read' (slot node) = none)
    (behind : back' node = lastSlot slot p l)
    (hread : ∀ q, q ≠ lastSlot slot p l → q ≠ slot node → read' q = read q)
    (hback : ∀ other, other ≠ node → back' other = back other) :
    Chain slot read' back' p (l ++ [node]) := by
  refine ⟨?_, ?_, ?_⟩
  · rw [List.map_append, ← List.cons_append]
    exact List.Nodup.append chain.slots (List.nodup_singleton _)
      (by simpa using fresh)
  · rw [path_append]
    refine ⟨?_, here, behind, trivial⟩
    refine path_congr chain.slots ?_ ?_ chain.path
    · intro q member different
      refine hread q different ?_
      rintro rfl
      exact fresh member
    · intro other member
      refine hback other ?_
      rintro rfl
      exact off member
  · rw [lastSlot_append]
    exact finish

theorem remove [DecidableEq α]
    (chain : Chain slot read back p (a ++ node :: b))
    (nodup : (a ++ node :: b).Nodup)
    (here : read' (lastSlot slot p a) = read (slot node))
    (hread : ∀ q, q ≠ lastSlot slot p a → q ≠ slot node → read' q = read q)
    (hback : ∀ other, other ≠ node → back' other =
      if read (slot node) = some other then lastSlot slot p a
      else back other) :
    Chain slot read' back' p (a ++ b) := by
  obtain ⟨apart, ahead, behind⟩ := chain.split
  have front := (path_append.1 chain.path).1
  obtain ⟨_, _, rest⟩ := read_lastSlot chain.path
  have hnext := chain.next_eq
  have slots := chain.slots
  have finish := chain.finish
  rw [lastSlot_append] at finish
  rw [List.nodup_middle, List.nodup_cons, List.mem_append] at nodup
  obtain ⟨off, nodup⟩ := nodup
  have disjoint := List.disjoint_of_nodup_append nodup
  have front' : Path slot read' back' p a := by
    refine path_congr ?_ ?_ ?_ front
    · rw [List.map_append, ← List.cons_append] at slots
      exact slots.of_append_left
    · intro q member different
      refine hread q different ?_
      rintro rfl
      exact behind _ member (by simp)
    · intro other member
      rw [hback other (fun eq => off (.inl (eq ▸ member))), if_neg]
      rw [hnext]
      intro eq
      exact disjoint member (List.mem_of_head? eq)
  rw [List.map_append, List.map_cons, ← List.cons_append] at slots
  obtain ⟨own, tails⟩ := List.nodup_cons.1 slots.of_append_right
  have kept : ∀ q ∈ b.map slot, read' q = read q := by
    intro q member
    refine hread q (ahead q (List.mem_cons_of_mem _ member)) ?_
    rintro rfl
    exact own member
  refine ⟨?_, path_append.2 ⟨front', ?_⟩, ?_⟩
  · rw [List.map_append, ← List.cons_append]
    exact slots.sublist
      ((List.Sublist.refl _).append (List.sublist_cons_self _ _))
  · cases b with
    | nil => trivial
    | cons next tail =>
        obtain ⟨_, _, onward⟩ := rest
        refine ⟨here.trans hnext, ?_, ?_⟩
        · rw [hback next (fun eq => off (.inr (eq ▸ List.mem_cons_self))),
            if_pos (by rw [hnext]; rfl)]
        · refine path_congr tails ?_ ?_ onward
          · exact fun q member _ => kept q member
          · intro other member
            rw [hback other
              (fun eq => off (.inr (List.mem_cons_of_mem _ (eq ▸ member)))),
              if_neg]
            rw [hnext, List.head?_cons, Option.some.injEq]
            rintro rfl
            exact (List.nodup_cons.1 nodup.of_append_right).1 member
  · rw [lastSlot_append]
    cases b with
    | nil => exact here.trans hnext
    | cons next tail =>
        have member : lastSlot slot (slot next) tail ∈
            (next :: tail).map slot := lastSlot_mem
        exact (kept _ member).trans finish

end Chain

end BackLinkedList
