import Mathlib.Algebra.Ring.Nat
import Mathlib.Data.List.TakeWhile
import Mathlib.Order.Lattice

/-!
Lists kept by descending priority, first in first out within one priority,
with the total size of the entries that satisfy a predicate.
-/

namespace PriorityList

variable {ε κ : Type*} [LinearOrder κ] {key : ε → κ} {l a b : List ε} {x : ε}

def Ordered (key : ε → κ) (l : List ε) : Prop :=
  l.Pairwise fun first second => key second ≤ key first

def enqueue (key : ε → κ) (x : ε) (l : List ε) : List ε :=
  l.takeWhile (fun e => decide (key x ≤ key e)) ++
    x :: l.dropWhile (fun e => decide (key x ≤ key e))

def requeue (key : ε → κ) (x : ε) (l : List ε) : List ε :=
  l.takeWhile (fun e => decide (key x < key e)) ++
    x :: l.dropWhile (fun e => decide (key x < key e))

theorem Ordered.dropWhile_false {p : ε → Bool} (ordered : Ordered key l)
    (upward : ∀ low high, key low ≤ key high → p low → p high) :
    ∀ e ∈ l.dropWhile p, p e = false := by
  induction l with
  | nil => simp
  | cons head tail ih =>
      obtain ⟨hhead, htail⟩ := List.pairwise_cons.1 ordered
      cases hp : p head with
      | true =>
          rw [List.dropWhile_cons_of_pos hp]
          exact ih htail
      | false =>
          rw [List.dropWhile_cons_of_neg (by simp [hp])]
          intro e member
          rcases List.mem_cons.1 member with rfl | member
          · exact hp
          · cases he : p e with
            | false => rfl
            | true =>
                have := upward e head (hhead e member) he
                simp [hp] at this

theorem Ordered.insert (ordered : Ordered key (a ++ b))
    (above : ∀ e ∈ a, key x ≤ key e) (below : ∀ e ∈ b, key e ≤ key x) :
    Ordered key (a ++ x :: b) := by
  obtain ⟨ha, hb, hab⟩ := List.pairwise_append.1 ordered
  refine List.pairwise_append.2 ⟨ha, List.pairwise_cons.2 ⟨below, hb⟩, ?_⟩
  intro first member second member'
  rcases List.mem_cons.1 member' with rfl | member'
  · exact above first member
  · exact hab first member second member'

theorem Ordered.last_le (ordered : Ordered key l) {e last : ε}
    (final : last ∈ l.getLast?) (member : e ∈ l) : key last ≤ key e := by
  rcases List.eq_nil_or_concat l with rfl | ⟨init, last', rfl⟩
  · cases member
  · rw [List.concat_eq_append] at *
    obtain rfl : last' = last := by simpa using final
    obtain ⟨_, _, before⟩ := List.pairwise_append.1 ordered
    rcases List.mem_append.1 member with member | member
    · exact before e member last' List.mem_cons_self
    · rw [List.mem_singleton.1 member]

theorem Ordered.insert_iff (ordered : Ordered key (a ++ b)) :
    Ordered key (a ++ x :: b) ↔ (∀ e ∈ a.getLast?, key x ≤ key e) ∧
      ∀ e ∈ b.head?, key e ≤ key x := by
  obtain ⟨front, back, _⟩ := List.pairwise_append.1 ordered
  constructor
  · intro placed
    obtain ⟨_, after, before⟩ := List.pairwise_append.1 placed
    refine ⟨?_, ?_⟩
    · intro e last
      exact before e (List.mem_of_getLast? last) x List.mem_cons_self
    · intro e head
      exact (List.pairwise_cons.1 after).1 e (List.mem_of_head? head)
  · rintro ⟨last, head⟩
    apply ordered.insert
    · intro e member
      have nonempty : a ≠ [] := List.ne_nil_of_mem member
      have final := List.getLast?_eq_some_getLast nonempty
      exact le_trans (last _ final) (Ordered.last_le front final member)
    · intro e member
      cases b with
      | nil => cases member
      | cons next rest =>
          refine le_trans ?_ (head next rfl)
          rcases List.mem_cons.1 member with rfl | member
          · exact le_refl _
          · exact (List.pairwise_cons.1 back).1 e member

theorem Ordered.remove (ordered : Ordered key (a ++ x :: b)) :
    Ordered key (a ++ b) :=
  List.Pairwise.sublist
    (List.Sublist.append_left (List.sublist_cons_self x b) a) ordered

theorem Ordered.split (ordered : Ordered key l) (k : κ) :
    ∃ high low, l = high ++ (l.filter (fun e => decide (key e = k)) ++ low) ∧
      (∀ e ∈ high, k < key e) ∧ ∀ e ∈ low, key e < k := by
  induction l with
  | nil => exact ⟨[], [], rfl, by simp, by simp⟩
  | cons head tail ih =>
      obtain ⟨below, rest⟩ := List.pairwise_cons.1 ordered
      obtain ⟨high, low, eq, above, under⟩ := ih rest
      rcases lt_trichotomy k (key head) with more | same | less
      · rw [List.filter_cons_of_neg (by simpa using ne_of_gt more)]
        refine ⟨head :: high, low, by rw [List.cons_append, ← eq], ?_, under⟩
        intro e member
        rcases List.mem_cons.1 member with rfl | member
        · exact more
        · exact above e member
      · have empty : high = [] := by
          rw [List.eq_nil_iff_forall_not_mem]
          intro e member
          have inside : e ∈ tail := by
            rw [eq]
            exact List.mem_append_left _ member
          exact absurd (above e member) (not_lt.2 (same ▸ below e inside))
        rw [empty, List.nil_append] at eq
        rw [List.filter_cons_of_pos (by simpa using same.symm)]
        refine ⟨[], low, ?_, by simp, under⟩
        rw [List.nil_append, List.cons_append, ← eq]
      · refine ⟨[], head :: tail, ?_, by simp, ?_⟩
        · have none : (head :: tail).filter (fun e => decide (key e = k)) =
              [] := by
            rw [List.filter_eq_nil_iff]
            intro e member
            rcases List.mem_cons.1 member with rfl | member
            · simpa using ne_of_lt less
            · simpa using ne_of_lt (lt_of_le_of_lt (below e member) less)
          rw [none]
          rfl
        · intro e member
          rcases List.mem_cons.1 member with rfl | member
          · exact less
          · exact lt_of_le_of_lt (below e member) less

theorem Ordered.enqueue (ordered : Ordered key l) :
    Ordered key (enqueue key x l) := by
  refine Ordered.insert ?_ ?_ ?_
  · rw [List.takeWhile_append_dropWhile]
    exact ordered
  · intro e member
    simpa using List.mem_takeWhile_imp member
  · intro e member
    have := ordered.dropWhile_false
      (p := fun e => decide (key x ≤ key e))
      (fun low high le => by simpa using fun h => le_trans h le) e member
    exact le_of_lt (by simpa using this)

theorem Ordered.requeue (ordered : Ordered key l) :
    Ordered key (requeue key x l) := by
  refine Ordered.insert ?_ ?_ ?_
  · rw [List.takeWhile_append_dropWhile]
    exact ordered
  · intro e member
    exact le_of_lt (by simpa using List.mem_takeWhile_imp member)
  · intro e member
    have := ordered.dropWhile_false
      (p := fun e => decide (key x < key e))
      (fun low high le => by simpa using fun h => lt_of_lt_of_le h le) e member
    simpa using this

theorem enqueue_perm : (enqueue key x l).Perm (x :: l) := by
  refine List.perm_middle.trans ?_
  rw [List.takeWhile_append_dropWhile]

theorem requeue_perm : (requeue key x l).Perm (x :: l) := by
  refine List.perm_middle.trans ?_
  rw [List.takeWhile_append_dropWhile]

theorem requeue_first (below : ∀ e ∈ l, key e ≤ key x) :
    requeue key x l = x :: l := by
  unfold requeue
  cases l with
  | nil => rfl
  | cons head tail =>
      have le := below head List.mem_cons_self
      rw [List.takeWhile_cons_of_neg (by simpa using le),
        List.dropWhile_cons_of_neg (by simpa using le), List.nil_append]

theorem filter_enqueue (ordered : Ordered key l) (k : κ) :
    (enqueue key x l).filter (fun e => decide (key e = k)) =
      l.filter (fun e => decide (key e = k)) ++
        if key x = k then [x] else [] := by
  have split := List.takeWhile_append_dropWhile
    (p := fun e => decide (key x ≤ key e)) (l := l)
  conv_rhs => rw [← split]
  rw [PriorityList.enqueue, List.filter_append, List.filter_append]
  by_cases hk : key x = k
  · have empty : (l.dropWhile fun e => decide (key x ≤ key e)).filter
        (fun e => decide (key e = k)) = [] := by
      rw [List.filter_eq_nil_iff]
      intro e member
      have := ordered.dropWhile_false
        (p := fun e => decide (key x ≤ key e))
        (fun low high le => by simpa using fun h => le_trans h le) e member
      have below : key e < key x := by simpa using this
      simpa [← hk] using ne_of_lt below
    rw [List.filter_cons_of_pos (by simpa using hk), empty, if_pos hk]
    simp
  · rw [List.filter_cons_of_neg (by simpa using hk), if_neg hk]
    simp

theorem filter_requeue (k : κ) :
    (requeue key x l).filter (fun e => decide (key e = k)) =
      (if key x = k then [x] else []) ++
        l.filter (fun e => decide (key e = k)) := by
  have split := List.takeWhile_append_dropWhile
    (p := fun e => decide (key x < key e)) (l := l)
  conv_rhs => rw [← split]
  rw [PriorityList.requeue, List.filter_append, List.filter_append]
  by_cases hk : key x = k
  · have empty : (l.takeWhile fun e => decide (key x < key e)).filter
        (fun e => decide (key e = k)) = [] := by
      rw [List.filter_eq_nil_iff]
      intro e member
      have above : key x < key e := by simpa using List.mem_takeWhile_imp member
      simpa [← hk] using (ne_of_lt above).symm
    rw [List.filter_cons_of_pos (by simpa using hk), empty, if_pos hk]
    simp
  · rw [List.filter_cons_of_neg (by simpa using hk), if_neg hk]
    simp

theorem while_congr {p q : ε → Bool} (same : ∀ e ∈ l, p e = q e) :
    l.takeWhile p = l.takeWhile q ∧ l.dropWhile p = l.dropWhile q := by
  induction l with
  | nil => simp
  | cons head tail ih =>
      have hhead := same head (by simp)
      have htail := ih fun e member => same e (by simp [member])
      simp only [List.takeWhile_cons, List.dropWhile_cons, hhead, htail.1,
        htail.2, and_self]

theorem takeWhile_or {p q : ε → Bool}
    (stopped : ∀ e ∈ l.dropWhile p, p e = false) :
    l.takeWhile (fun e => p e || q e) =
        l.takeWhile p ++ (l.dropWhile p).takeWhile q ∧
      l.dropWhile (fun e => p e || q e) = (l.dropWhile p).dropWhile q := by
  induction l with
  | nil => simp
  | cons head tail ih =>
      cases hp : p head with
      | true =>
          rw [List.dropWhile_cons_of_pos hp] at stopped
          obtain ⟨htake, hdrop⟩ := ih stopped
          rw [List.takeWhile_cons_of_pos hp, List.dropWhile_cons_of_pos hp,
            List.takeWhile_cons_of_pos (by simp [hp]),
            List.dropWhile_cons_of_pos (by simp [hp]), htake, hdrop]
          simp
      | false =>
          have hneg : ¬ p head = true := by simp [hp]
          rw [List.dropWhile_cons_of_neg hneg] at stopped ⊢
          rw [List.takeWhile_cons_of_neg hneg, List.nil_append]
          apply while_congr
          intro e member
          rw [stopped e member, Bool.false_or]

def load (p : ε → Bool) (size : ε → Nat) (l : List ε) : Nat :=
  ((l.filter p).map size).sum

theorem load_insert (p : ε → Bool) (size : ε → Nat) (x : ε) (a b : List ε) :
    load p size (a ++ x :: b) =
      load p size (a ++ b) + if p x then size x else 0 := by
  unfold load
  cases hp : p x with
  | true => simp [hp]; omega
  | false => simp [hp]

theorem length_filter_insert (p : ε → Bool) (x : ε) (a b : List ε) :
    ((a ++ x :: b).filter p).length =
      ((a ++ b).filter p).length + if p x then 1 else 0 := by
  cases hp : p x with
  | true => simp [hp]; omega
  | false => simp [hp]

end PriorityList
