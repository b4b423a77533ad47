/-!
A leaky bucket: every error raises its level, every so many units lower it,
and it is full when the level reaches a threshold.
-/

namespace LeakyBucket

structure Bucket where
  level : Nat
  turn : Nat
deriving DecidableEq

namespace Bucket

/-- A unit goes by; every `rate`-th lets an error out. -/
def count (rate : Nat) (b : Bucket) : Bucket :=
  if rate ≤ b.turn + 1 then ⟨b.level - 1, 0⟩ else ⟨b.level, b.turn + 1⟩

def pour (threshold rate : Nat) (b : Bucket) (drop : Bool) : Bucket × Bool :=
  if drop then
    if threshold ≤ b.level + 1 then (⟨b.level + 1, b.turn⟩, true)
    else (count rate ⟨b.level + 1, b.turn⟩, false)
  else (count rate b, false)

theorem level_count (rate : Nat) (b : Bucket) :
    (b.count rate).level ≤ b.level := by
  unfold count
  split
  · exact Nat.sub_le _ _
  · exact Nat.le_refl _

theorem turn_count_lt {rate limit : Nat} {b : Bucket} (positive : 0 < limit)
    (bounded : rate ≤ limit) : (b.count rate).turn < limit := by
  unfold count
  split
  · exact positive
  · dsimp only
    omega

theorem level_pour {threshold rate : Nat} {b : Bucket} {drop : Bool}
    (short : (b.pour threshold rate drop).2 = false) :
    (b.pour threshold rate drop).1.level < threshold ∨
      (b.pour threshold rate drop).1.level ≤ b.level := by
  unfold pour at short ⊢
  cases drop with
  | false => exact .inr (level_count rate b)
  | true =>
      rw [if_pos rfl] at short ⊢
      split
      next full =>
        rw [if_pos full] at short
        cases short
      next room =>
        refine .inl (Nat.lt_of_le_of_lt (level_count rate _) ?_)
        exact Nat.lt_of_not_le room

theorem turn_pour {threshold rate limit : Nat} {b : Bucket} {drop : Bool}
    (short : (b.pour threshold rate drop).2 = false) (positive : 0 < limit)
    (bounded : rate ≤ limit) :
    (b.pour threshold rate drop).1.turn < limit := by
  unfold pour at short ⊢
  cases drop with
  | false => exact turn_count_lt positive bounded
  | true =>
      rw [if_pos rfl] at short ⊢
      split
      next full =>
        rw [if_pos full] at short
        cases short
      next => exact turn_count_lt positive bounded

end Bucket

end LeakyBucket
