import Mathlib.Data.Nat.ModEq
import Mathlib.Data.List.Pairwise
import Mathlib.Tactic.Ring

/-!
Sliding windows over numbers that wrap around, and the safety of a window
protocol over channels that keep the order of what they carry but may lose
any of it.
-/

namespace SlidingWindow

section Cyclic

variable {M a b n : Nat}

/-- The steps from `a` forward to `b` on a cycle of `M` numbers. -/
def steps (M a b : Nat) : Nat := if a ≤ b then b - a else b + M - a

theorem add_steps (ha : a < M) : a + steps M a b ≡ b [MOD M] := by
  unfold steps
  split
  · have : a + (b - a) = b := by omega
    rw [this]
  · have : a + (b + M - a) = b + M := by omega
    rw [this]
    exact Nat.add_mod_right b M

theorem steps_lt (ha : a < M) (hb : b < M) : steps M a b < M := by
  unfold steps
  split <;> omega

theorem steps_le (ha : a < M) (hb : b < M) (leads : a + n ≡ b [MOD M]) :
    steps M a b ≤ n := by
  have same : steps M a b ≡ n [MOD M] :=
    Nat.ModEq.add_left_cancel' a ((add_steps ha).trans leads.symm)
  have turned : steps M a b = n % M := by
    rw [← Nat.mod_eq_of_lt (steps_lt ha hb)]
    exact same
  rw [turned]
  exact Nat.mod_le n M

theorem eq_of_modEq (same : a ≡ b [MOD M]) (above : a < b + M)
    (below : b < a + M) : a = b := by
  apply same.eq_of_abs_lt
  rw [abs_lt]
  omega

/-- The steps from `a` forward to `b`, each a number of any size that stands
for its place on the cycle. -/
def ahead (M a b : Nat) : Nat := (b + (M - a % M)) % M

theorem ahead_lt (turn : 0 < M) : ahead M a b < M := Nat.mod_lt _ turn

theorem add_ahead (turn : 0 < M) : a + ahead M a b ≡ b [MOD M] := by
  have place : a % M < M := Nat.mod_lt a turn
  have back : a + (b + (M - a % M)) = b + M * (a / M + 1) := by
    have split := Nat.div_add_mod a M
    rw [Nat.mul_add, Nat.mul_one]
    omega
  calc a + ahead M a b
      ≡ a + (b + (M - a % M)) [MOD M] := Nat.ModEq.add_left a (Nat.mod_modEq _ _)
    _ = b + M * (a / M + 1) := back
    _ ≡ b [MOD M] := Nat.add_mul_mod_self_left b M _

theorem ahead_eq (small : n < M) (leads : a + n ≡ b [MOD M]) :
    ahead M a b = n := by
  have same : ahead M a b ≡ n [MOD M] := Nat.ModEq.add_left_cancel' a
    ((add_ahead (by omega)).trans leads.symm)
  exact Nat.ModEq.eq_of_lt_of_lt same (ahead_lt (by omega)) small

end Cyclic

/-- The state of one direction, by absolute counts: `f` items acknowledged
to the sender, `t` sent, `x` accepted by the receiver, `a` acknowledged by
it, and the copies and acknowledgements on their way, oldest first. An entry
of `data` is the place of an item, or nothing for a unit without one. -/
structure Flight (W f a x t : Nat) (data : List (Option Nat))
    (acks : List Nat) : Prop where
  acked : f ≤ a
  accepted : a ≤ x
  sent : x ≤ t
  window : t ≤ f + W
  copies : ∀ i, some i ∈ data → i < t ∧ x ≤ i + W
  order : data.Pairwise fun p q => ∀ i j, p = some i → q = some j →
    i + 1 ≤ j + W
  acks_ge : ∀ k ∈ acks, f ≤ k
  acks_le : ∀ k ∈ acks, k ≤ a
  acks_sorted : acks.Pairwise (· ≤ ·)

namespace Flight

variable {W f a x t : Nat} {data : List (Option Nat)} {acks : List Nat}

theorem initial (W : Nat) : Flight W 0 0 0 0 [] [] := by
  constructor <;> simp

theorem lose (flight : Flight W f a x t data acks)
    {data' : List (Option Nat)} {acks' : List Nat}
    (fewer : data'.Sublist data) (fewerAcks : acks'.Sublist acks) :
    Flight W f a x t data' acks' where
  acked := flight.acked
  accepted := flight.accepted
  sent := flight.sent
  window := flight.window
  copies := fun i mem => flight.copies i (fewer.subset mem)
  order := flight.order.sublist fewer
  acks_ge := fun k mem => flight.acks_ge k (fewerAcks.subset mem)
  acks_le := fun k mem => flight.acks_le k (fewerAcks.subset mem)
  acks_sorted := flight.acks_sorted.sublist fewerAcks

theorem idle (flight : Flight W f a x t data acks) :
    Flight W f a x t (data ++ [none]) acks where
  acked := flight.acked
  accepted := flight.accepted
  sent := flight.sent
  window := flight.window
  copies := fun i mem => flight.copies i (by simpa using mem)
  order := by
    rw [List.pairwise_append]
    refine ⟨flight.order, List.pairwise_singleton _ _, ?_⟩
    intro p _ q mem i j _ some
    simp [List.mem_singleton.1 mem] at some
  acks_ge := flight.acks_ge
  acks_le := flight.acks_le
  acks_sorted := flight.acks_sorted

theorem again (flight : Flight W f a x t data acks) {i : Nat} (low : f ≤ i)
    (high : i < t) : Flight W f a x t (data ++ [some i]) acks where
  acked := flight.acked
  accepted := flight.accepted
  sent := flight.sent
  window := flight.window
  copies := by
    intro j mem
    have window := flight.window
    have sent := flight.sent
    rcases List.mem_append.1 mem with old | new
    · exact flight.copies j old
    · simp only [List.mem_singleton, Option.some.injEq] at new
      omega
  order := by
    rw [List.pairwise_append]
    refine ⟨flight.order, List.pairwise_singleton _ _, ?_⟩
    intro p old q mem j k hp hq
    have window := flight.window
    have before := (flight.copies j (hp ▸ old)).1
    rw [List.mem_singleton.1 mem, Option.some.injEq] at hq
    omega
  acks_ge := flight.acks_ge
  acks_le := flight.acks_le
  acks_sorted := flight.acks_sorted

theorem extend (flight : Flight W f a x t data acks) (room : t < f + W) :
    Flight W f a x (t + 1) data acks where
  acked := flight.acked
  accepted := flight.accepted
  sent := Nat.le_succ_of_le flight.sent
  window := room
  copies := fun i mem =>
    ⟨Nat.lt_succ_of_lt (flight.copies i mem).1, (flight.copies i mem).2⟩
  order := flight.order
  acks_ge := flight.acks_ge
  acks_le := flight.acks_le
  acks_sorted := flight.acks_sorted

theorem acknowledge (flight : Flight W f a x t data acks) :
    Flight W f a x t data (acks ++ [a]) where
  acked := flight.acked
  accepted := flight.accepted
  sent := flight.sent
  window := flight.window
  copies := flight.copies
  order := flight.order
  acks_ge := by
    intro k mem
    rcases List.mem_append.1 mem with old | new
    · exact flight.acks_ge k old
    · rw [List.mem_singleton.1 new]
      exact flight.acked
  acks_le := by
    intro k mem
    rcases List.mem_append.1 mem with old | new
    · exact flight.acks_le k old
    · exact Nat.le_of_eq (List.mem_singleton.1 new)
  acks_sorted := by
    rw [List.pairwise_append]
    refine ⟨flight.acks_sorted, List.pairwise_singleton _ _, ?_⟩
    intro k old l new
    rw [List.mem_singleton.1 new]
    exact flight.acks_le k old

theorem catchUp (flight : Flight W f a x t data acks) :
    Flight W f x x t data acks where
  acked := Nat.le_trans flight.acked flight.accepted
  accepted := Nat.le_refl x
  sent := flight.sent
  window := flight.window
  copies := flight.copies
  order := flight.order
  acks_ge := flight.acks_ge
  acks_le := fun k mem =>
    Nat.le_trans (flight.acks_le k mem) flight.accepted
  acks_sorted := flight.acks_sorted

theorem release {k : Nat} (flight : Flight W f a x t data (k :: acks)) :
    f ≤ k ∧ k ≤ t ∧ Flight W k a x t data acks := by
  have low := flight.acks_ge k List.mem_cons_self
  have high := flight.acks_le k List.mem_cons_self
  have accepted := flight.accepted
  have sent := flight.sent
  have window := flight.window
  refine ⟨low, by omega, ?_⟩
  obtain ⟨first, rest⟩ := List.pairwise_cons.1 flight.acks_sorted
  exact
    { acked := high
      accepted := accepted
      sent := sent
      window := by omega
      copies := flight.copies
      order := flight.order
      acks_ge := first
      acks_le := fun l mem => flight.acks_le l (List.mem_cons_of_mem k mem)
      acks_sorted := rest }

theorem accept (flight : Flight W f a x t (some x :: data) acks) :
    Flight W f a (x + 1) t data acks := by
  obtain ⟨first, rest⟩ := List.pairwise_cons.1 flight.order
  exact
    { acked := flight.acked
      accepted := Nat.le_succ_of_le flight.accepted
      sent := (flight.copies x List.mem_cons_self).1
      window := flight.window
      copies := fun i mem =>
        ⟨(flight.copies i (List.mem_cons_of_mem _ mem)).1,
          first (some i) mem x i rfl rfl⟩
      order := rest
      acks_ge := flight.acks_ge
      acks_le := flight.acks_le
      acks_sorted := flight.acks_sorted }

theorem identify {M i : Nat} (flight : Flight W f a x t data acks)
    (mem : some i ∈ data) (wide : W < M) (same : i ≡ x [MOD M]) : i = x := by
  obtain ⟨before, near⟩ := flight.copies i mem
  have window := flight.window
  have acked := flight.acked
  have accepted := flight.accepted
  exact eq_of_modEq same (by omega) (by omega)

end Flight

end SlidingWindow
